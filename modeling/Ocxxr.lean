import Ocxxr.Library.SortedSearch
import Ocxxr.Library.SlotPrefix
import Ocxxr.Library.AlignedWords
import Ocxxr.Library.BumpRegion
import Ocxxr.Library.ByteMemory
import Ocxxr.Library.Faults
import Ocxxr.Library.GhostRuns
import Ocxxr.Library.AccessLog
import Ocxxr.Library.Outcomes
import Ocxxr.Library.TaskGraph
import Ocxxr.Library.TaskHosts
import Ocxxr.Library.TaskContracts
import Ocxxr.Library.TaskInvariant
import Ocxxr.Library.TaskDelivery
import Ocxxr.Library.TaskSpawning
import Ocxxr.Library.TaskAdequacy
import Ocxxr.Ocr
import Ocxxr.Bookkeeping
import Ocxxr.Allocator
import Ocxxr.TaskState
import Ocxxr.AcquiredData
import Ocxxr.AcquiredTable
import Ocxxr.BookkeepingSpec
import Ocxxr.ClosestBase
import Ocxxr.GuidMap
import Ocxxr.EntryRemoval
import Ocxxr.LookupTraces
import Ocxxr.BasedPointer
import Ocxxr.BasedCells
import Ocxxr.Relocation
import Ocxxr.OutsideDatablocks
import Ocxxr.TaskOperations
import Ocxxr.HeldDatablocks
import Ocxxr.DatablockLists
import Ocxxr.TaskLaunch
import Ocxxr.TaskFrames
import Ocxxr.AllocatorSpec
import Ocxxr.TaskNesting
import Ocxxr.ArenaRegion
import Ocxxr.ArenaCalls
import Ocxxr.ShortAllocation
import Ocxxr.ArenaRuns
import Ocxxr.ObjectAlignment
import Ocxxr.RelativePointer
import Ocxxr.PointerTypes
import Ocxxr.PointerIndexing
import Ocxxr.RelativeCells
import Ocxxr.ArenaImage
import Ocxxr.ArenaCreation
import Ocxxr.Grid2D
import Ocxxr.Grid2DRuns
import Ocxxr.ListOwnership
import Ocxxr.TaskSignatures
import Ocxxr.TaskLaunchSpec
import Ocxxr.ArgumentOrder
import Ocxxr.TaskCreation
import Ocxxr.TaskCreationSpec
import Ocxxr.FinishTasks
import Ocxxr.TaskParameters
import Ocxxr.VarArgsForwarding
import Ocxxr.ListDependences
import Ocxxr.TaskPrograms
import Ocxxr.TaskProgramRules
import Ocxxr.Fibonacci
import Ocxxr.FibonacciRuns
import Ocxxr.MonteCarloPi
import Ocxxr.MonteCarloPiRuns
import Ocxxr.TaskWiring
