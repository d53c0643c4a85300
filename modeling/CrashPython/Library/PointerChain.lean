import Mathlib.Data.List.Nodup

namespace CrashPython
namespace Library

/-!
Chains of pointers in memory.

A chain starts at a pointer and follows a link from each of its nodes to the
next one, up to the null pointer.  A walk that is given a limit ends in one of
three ways: at the null pointer, at the limit, or at a link that cannot be read.
What it meets on the way depends on memory only.
-/

variable {Error : Type}

/-- How a walk along a chain ends. -/
inductive ChainEnd (Error : Type) where
  | null
  | overflow
  | failed (error : Error)
deriving DecidableEq, Repr

/-- The nodes of a walk with a limit, and its end.  The node whose link cannot
be read is the last one. -/
def chainWalk (link : Nat -> Except Error Nat) : Nat -> Nat -> List Nat × ChainEnd Error
  | 0, pointer => if pointer = 0 then ([], .null) else ([], .overflow)
  | limit + 1, pointer =>
      if pointer = 0 then ([], .null)
      else
        match link pointer with
        | .error error => ([pointer], .failed error)
        | .ok next =>
            let rest := chainWalk link limit next
            (pointer :: rest.1, rest.2)

/-- The nodes form a chain from the pointer to null. -/
inductive NullTerminated (link : Nat -> Except Error Nat) : Nat -> List Nat -> Prop where
  | done : NullTerminated link 0 []
  | node {pointer next : Nat} {rest : List Nat} (nonNull : pointer ≠ 0)
      (linked : link pointer = .ok next) (onward : NullTerminated link next rest) :
      NullTerminated link pointer (pointer :: rest)

/-- The node is on the chain that starts at the pointer, which may have no end. -/
inductive OnChain (link : Nat -> Except Error Nat) (node : Nat) : Nat -> Prop where
  | here (nonNull : node ≠ 0) : OnChain link node node
  | later {pointer next : Nat} (nonNull : pointer ≠ 0) (linked : link pointer = .ok next)
      (onward : OnChain link node next) : OnChain link node pointer

variable {link : Nat -> Except Error Nat}

theorem NullTerminated.of_null {nodes : List Nat} (chain : NullTerminated link 0 nodes) :
    nodes = [] := by
  cases chain with
  | done => rfl
  | node nonNull linked onward => exact False.elim (nonNull rfl)

theorem NullTerminated.first_mem {pointer : Nat} {nodes : List Nat}
    (chain : NullTerminated link pointer nodes) (nonNull : pointer ≠ 0) : pointer ∈ nodes := by
  cases chain with
  | done => exact False.elim (nonNull rfl)
  | node _ linked onward => exact List.mem_cons_self

theorem NullTerminated.nonNull {pointer : Nat} {nodes : List Nat}
    (chain : NullTerminated link pointer nodes) : 0 ∉ nodes := by
  induction chain with
  | done => exact List.not_mem_nil
  | node nonNull linked onward inductionHypothesis =>
      intro member
      rcases List.mem_cons.mp member with here | later
      · exact nonNull here.symm
      · exact inductionHypothesis later

/-- A chain is determined by its first pointer. -/
theorem NullTerminated.unique {pointer : Nat} {nodes others : List Nat}
    (chain : NullTerminated link pointer nodes) (other : NullTerminated link pointer others) :
    nodes = others := by
  induction chain generalizing others with
  | done => exact other.of_null.symm
  | node nonNull linked onward inductionHypothesis =>
      cases other with
      | done => exact False.elim (nonNull rfl)
      | node _ again further =>
          have same := Except.ok.inj (linked.symm.trans again)
          rw [inductionHypothesis (same ▸ further)]

/-- The nodes of a chain that ends are those on it. -/
theorem NullTerminated.mem_iff {pointer node : Nat} {nodes : List Nat}
    (chain : NullTerminated link pointer nodes) : node ∈ nodes <-> OnChain link node pointer := by
  constructor
  · intro member
    induction chain with
    | done => cases member
    | node nonNull linked onward inductionHypothesis =>
        rcases List.mem_cons.mp member with rfl | later
        · exact .here nonNull
        · exact .later nonNull linked (inductionHypothesis later)
  · intro reached
    induction reached generalizing nodes with
    | here nonNull => exact chain.first_mem nonNull
    | later nonNull linked onward inductionHypothesis =>
        cases chain with
        | done => exact False.elim (nonNull rfl)
        | node _ again further =>
            have same := Except.ok.inj (linked.symm.trans again)
            exact List.mem_cons_of_mem _ (inductionHypothesis (same ▸ further))

/-- Each node of a chain starts a chain of its own, the rest of the first one. -/
theorem NullTerminated.rest {pointer node : Nat} {nodes : List Nat}
    (chain : NullTerminated link pointer nodes) (member : node ∈ nodes) :
    Exists fun others : List Nat => NullTerminated link node others ∧ others.length ≤ nodes.length := by
  induction chain with
  | done => cases member
  | @node pointer next rest nonNull linked onward inductionHypothesis =>
      rcases List.mem_cons.mp member with rfl | later
      · exact ⟨node :: rest, .node nonNull linked onward, Nat.le_refl _⟩
      · rcases inductionHypothesis later with ⟨others, further, shorter⟩
        exact ⟨others, further, Nat.le_succ_of_le shorter⟩

/-- A chain that ends has no node twice: its rest from there would be shorter than itself. -/
theorem NullTerminated.nodup {pointer : Nat} {nodes : List Nat}
    (chain : NullTerminated link pointer nodes) : nodes.Nodup := by
  induction chain with
  | done => exact List.nodup_nil
  | @node pointer next rest nonNull linked onward inductionHypothesis =>
      refine List.nodup_cons.mpr ⟨fun again => ?_, inductionHypothesis⟩
      rcases onward.rest again with ⟨others, further, shorter⟩
      have same := (NullTerminated.node nonNull linked onward).unique further
      rw [← same] at shorter
      exact Nat.not_succ_le_self _ shorter

/-- A walk meets no more nodes than its limit. -/
theorem chainWalk_length (limit pointer : Nat) :
    (chainWalk link limit pointer).1.length ≤ limit := by
  induction limit generalizing pointer with
  | zero =>
      simp only [chainWalk]
      split
      · exact Nat.le_refl 0
      · exact Nat.le_refl 0
  | succ limit inductionHypothesis =>
      simp only [chainWalk]
      split
      · exact Nat.zero_le _
      · split
        · exact Nat.succ_le_succ (Nat.zero_le limit)
        · exact Nat.succ_le_succ (inductionHypothesis _)

/-- A walk that comes to null has met a chain. -/
theorem nullTerminated_of_chainWalk {limit pointer : Nat}
    (ended : (chainWalk link limit pointer).2 = .null) :
    NullTerminated link pointer (chainWalk link limit pointer).1 := by
  induction limit generalizing pointer with
  | zero =>
      simp only [chainWalk] at ended ⊢
      by_cases null : pointer = 0
      · rw [if_pos null, null]
        exact .done
      · rw [if_neg null] at ended
        cases ended
  | succ limit inductionHypothesis =>
      simp only [chainWalk] at ended ⊢
      by_cases null : pointer = 0
      · rw [if_pos null, null]
        exact .done
      · rw [if_neg null] at ended ⊢
        cases linked : link pointer with
        | error error =>
            rw [linked] at ended
            cases ended
        | ok next =>
            rw [linked] at ended
            exact .node null linked (inductionHypothesis ended)

theorem chainWalk_null (limit : Nat) : chainWalk link limit 0 = ([], .null) := by
  cases limit with
  | zero => rfl
  | succ limit => rfl

/-- A chain that fits the limit is walked to its end. -/
theorem chainWalk_of_nullTerminated {pointer limit : Nat} {nodes : List Nat}
    (chain : NullTerminated link pointer nodes) (fits : nodes.length ≤ limit) :
    chainWalk link limit pointer = (nodes, .null) := by
  induction chain generalizing limit with
  | done => exact chainWalk_null limit
  | node nonNull linked onward inductionHypothesis =>
      cases limit with
      | zero => exact False.elim (Nat.not_succ_le_zero _ fits)
      | succ limit =>
          rw [chainWalk, if_neg nonNull, linked]
          simp only [inductionHypothesis (Nat.le_of_succ_le_succ fits)]

/-- A larger limit makes no difference to a walk that has ended. -/
theorem chainWalk_stable {pointer limit more : Nat}
    (ended : (chainWalk link limit pointer).2 ≠ .overflow) (larger : limit ≤ more) :
    chainWalk link more pointer = chainWalk link limit pointer := by
  induction limit generalizing pointer more with
  | zero =>
      simp only [chainWalk] at ended
      by_cases null : pointer = 0
      · rw [null, chainWalk_null, chainWalk_null]
      · rw [if_neg null] at ended
        exact False.elim (ended rfl)
  | succ limit inductionHypothesis =>
      cases more with
      | zero => exact False.elim (Nat.not_succ_le_zero _ larger)
      | succ more =>
          simp only [chainWalk] at ended ⊢
          by_cases null : pointer = 0
          · rw [if_pos null, if_pos null]
          · rw [if_neg null] at ended
            rw [if_neg null, if_neg null]
            cases linked : link pointer with
            | error error => rfl
            | ok next =>
                rw [linked] at ended
                simp only [inductionHypothesis ended (Nat.le_of_succ_le_succ larger)]

section More

variable {fuller : Nat -> Except Error Nat}
  (agrees : forall pointer next, link pointer = .ok next -> fuller pointer = .ok next)

include agrees

/-- A chain is there in any memory that has its links. -/
theorem NullTerminated.wider {pointer : Nat} {nodes : List Nat}
    (chain : NullTerminated link pointer nodes) : NullTerminated fuller pointer nodes := by
  induction chain with
  | done => exact .done
  | node nonNull linked onward inductionHypothesis =>
      exact .node nonNull (agrees _ _ linked) inductionHypothesis

/-- A walk that read all its links is the same in any memory that has them. -/
theorem chainWalk_wider {limit pointer : Nat}
    (readable : forall error, (chainWalk link limit pointer).2 ≠ .failed error) :
    chainWalk fuller limit pointer = chainWalk link limit pointer := by
  induction limit generalizing pointer with
  | zero => rfl
  | succ limit inductionHypothesis =>
      simp only [chainWalk] at readable ⊢
      by_cases null : pointer = 0
      · rw [if_pos null, if_pos null]
      · rw [if_neg null] at readable
        rw [if_neg null, if_neg null]
        cases linked : link pointer with
        | error error =>
            rw [linked] at readable
            exact False.elim (readable error rfl)
        | ok next =>
            rw [linked] at readable
            rw [agrees pointer next linked]
            simp only [inductionHypothesis readable]

end More

end Library
end CrashPython
