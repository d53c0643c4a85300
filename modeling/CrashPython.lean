import CrashPython.Library.Frame
import CrashPython.Library.Generator
import CrashPython.Library.MemoryImage
import CrashPython.Library.Orbit
import CrashPython.Library.PyString
import CrashPython.Library.Segments
import CrashPython.Library.Sweep
import CrashPython.Library.Trace
import CrashPython.Library.Checker
import CrashPython.Library.PointerChain
import CrashPython.Library.Script
import CrashPython.Library.WordScan
import CrashPython.Library.History
import CrashPython.Library.Visits
import CrashPython.Library.SlotRow
import CrashPython.Library.LazyObject
import CrashPython.Library.Decided
import CrashPython.Library.BigEndian
import CrashPython.Library.Splitting
import CrashPython.Library.Lines
import CrashPython.Library.ParentTree
import CrashPython.Library.Assignments
import CrashPython.Library.Descending
import CrashPython.Library.IntText
import CrashPython.Library.PackedFields
import CrashPython.Library.Tally
import CrashPython.Library.Dict
import CrashPython.Library.IntBase
import CrashPython.Infra.Callback
import CrashPython.Infra.CallbackRegistration
import CrashPython.Infra.CallbackInvariant
import CrashPython.Infra.CallbackPasses
import CrashPython.Infra.CallbackRuns
import CrashPython.Infra.CallbackEvents
import CrashPython.Infra.Lookup
import CrashPython.Util.DelayedCollection
import CrashPython.Util.CollectionCoherence
import CrashPython.Util.TypesCollection
import CrashPython.Util.Offsetof
import CrashPython.Util.Uuid
import CrashPython.Util.Typedefs
import CrashPython.Util.DecodeFlags
import CrashPython.Util.SafeInt
import CrashPython.Types.LinkedList
import CrashPython.Types.ListInvariant
import CrashPython.Types.ListTraversal
import CrashPython.Types.ListRing
import CrashPython.Types.ListRun
import CrashPython.Types.RbTree
import CrashPython.Types.Page
import CrashPython.Types.PageEnumeration
import CrashPython.Types.Percpu
import CrashPython.Types.Bitmap
import CrashPython.Types.BitmapScan
import CrashPython.Types.Cpu
import CrashPython.Types.ListReverse
import CrashPython.Types.PercpuSetup
import CrashPython.Types.PercpuQueries
import CrashPython.Types.PageConversions
import CrashPython.Types.PageSetup
import CrashPython.Types.BitmapNext
import CrashPython.Types.Sbitmap
import CrashPython.Types.PageZones
import CrashPython.Types.NodesWidth
import CrashPython.Types.Task
import CrashPython.Types.ListEntries
import CrashPython.Types.TaskList
import CrashPython.Types.Klist
import CrashPython.Types.Zone
import CrashPython.Subsystem.LocklessRingbuffer
import CrashPython.Subsystem.StructuredRingbuffer
import CrashPython.Subsystem.PrbDataRing
import CrashPython.Subsystem.BlockMq
import CrashPython.Subsystem.Decoders
import CrashPython.Subsystem.Mount
import CrashPython.Subsystem.Kernfs
import CrashPython.Subsystem.BlockDevices
import CrashPython.Subsystem.Cgroup
import CrashPython.Kernel.ModuleFiles
import CrashPython.Kernel.LoadModules
import CrashPython.Kernel.PausedLoading
import CrashPython.Kernel.TreeSearch
import CrashPython.Cache.Uptime
import CrashPython.Cache.KernelConfig
import CrashPython.Commands.Ps
import CrashPython.Commands.KernfsLs
import CrashPython.Commands.KmemStats
import CrashPython.Target.FetchRegisters
import CrashPython.Slab.ArrayCaches
import CrashPython.Slab.SlabSLAB
import CrashPython.Slab.SlabCheck
import CrashPython.Slab.SlabLists
import CrashPython.Slab.SlabSLUB
import CrashPython.Slab.KmemCacheSLUB
import CrashPython.Slab.SlubScript
import CrashPython.Slab.SlubEnactment
import CrashPython.Slab.SlubNodes
import CrashPython.Slab.SlubQuiet
import CrashPython.Slab.SlubTermination
import CrashPython.Slab.SlubContents
import CrashPython.Slab.SlubQueries
import CrashPython.Slab.SlubImage
import CrashPython.Slab.SlubSettled
import CrashPython.Slab.SlubCount
import CrashPython.Slab.SlubSizes
import CrashPython.Slab.SlabLookup
import CrashPython.Slab.SlubReports
import CrashPython.Slab.SlubCrossCheck
import CrashPython.Slab.SlabObjects
import CrashPython.Slab.SlabAllocated
import CrashPython.Slab.SlubFreelist
import CrashPython.Slab.ArrayCacheCheck
import CrashPython.Slab.CacheRegistry
import CrashPython.Commands.Kmem
import CrashPython.Library.Reads
import CrashPython.Library.StableSort
import CrashPython.Library.Glob
import CrashPython.Types.TaskObject
import CrashPython.Commands.PsExecute
import CrashPython.Target.TaskSetup
import CrashPython.Commands.PsSession
