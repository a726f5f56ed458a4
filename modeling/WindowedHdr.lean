import WindowedHdr.Library.ActionSystem
import WindowedHdr.Library.Blockwise
import WindowedHdr.Library.ByteAccess
import WindowedHdr.Library.ByteMemory
import WindowedHdr.Library.Exclusion
import WindowedHdr.Library.Fallible
import WindowedHdr.Library.Faults
import WindowedHdr.Library.Fips180
import WindowedHdr.Library.History
import WindowedHdr.Library.NewestFirst
import WindowedHdr.Library.Ownership
import WindowedHdr.Library.Program
import WindowedHdr.Library.Scan
import WindowedHdr.Library.Str
import WindowedHdr.Library.ThreadSystem
import WindowedHdr.Library.While
import WindowedHdr.Library.X86
import WindowedHdr.Text
import WindowedHdr.Config.Parse
import WindowedHdr.Config.Grammar
import WindowedHdr.Sha256.Compress
import WindowedHdr.Sha256.Stream
import WindowedHdr.Dxgi.ManagedColorSpace
import WindowedHdr.Dxgi.SwapChainState
import WindowedHdr.Dxgi.Interleaving
import WindowedHdr.Dxgi.FailureLatch
import WindowedHdr.Dxgi.Relinquish
import WindowedHdr.Dxgi.PresentThreads
import WindowedHdr.Dxgi.Baseline
import WindowedHdr.Dxgi.NativeSet
import WindowedHdr.Dxgi.PresentSync
import WindowedHdr.Windows.WriteMemory
import WindowedHdr.Windows.CloneRegion
import WindowedHdr.Windows.Readable
import WindowedHdr.Dxgi.Imports
import WindowedHdr.Dxgi.ImportHooks
import WindowedHdr.Shadow.Hooks
import WindowedHdr.Shadow.Record
import WindowedHdr.Shadow.Install
import WindowedHdr.Shadow.Effect
import WindowedHdr.Shadow.System
import WindowedHdr.Shadow.Dispatch
import WindowedHdr.Shadow.Separation
import WindowedHdr.Shadow.Geometry
import WindowedHdr.Shadow.Expansion
import WindowedHdr.Shadow.Atomicity
import WindowedHdr.Shadow.Publication
import WindowedHdr.Shadow.PublicationOrder
import WindowedHdr.Shadow.PublicationOthers
import WindowedHdr.Shadow.PublicationStores
import WindowedHdr.Shadow.PublicationSafety
import WindowedHdr.Shadow.Lifetime
import WindowedHdr.Shadow.ReuseRace
import WindowedHdr.GameCompat.Targets
import WindowedHdr.GameCompat.Signature
import WindowedHdr.GameCompat.LoadedImage
import WindowedHdr.GameCompat.Scan
import WindowedHdr.GameCompat.MenuGate
import WindowedHdr.GameCompat.MenuGateVtable
import WindowedHdr.GameCompat.Resolve
import WindowedHdr.GameCompat.Exactness
import WindowedHdr.GameCompat.Faulting.Image
import WindowedHdr.GameCompat.Faulting.MainModule
import WindowedHdr.GameCompat.Faulting.Scan
import WindowedHdr.GameCompat.Faulting.Vtable
import WindowedHdr.GameCompat.Faulting.Resolve
import WindowedHdr.GameHdr.Trampoline
import WindowedHdr.GameHdr.Install
import WindowedHdr.GameHdr.InstallFailure
import WindowedHdr.GameHdr.TrampolineRun
import WindowedHdr.GameHdr.CandidateCache
import WindowedHdr.Runtime.Calls
import WindowedHdr.Runtime.SwapChains
import WindowedHdr.Runtime.Hooks
import WindowedHdr.Runtime.Startup
import WindowedHdr.Runtime.Process
import WindowedHdr.Runtime.Passive
import WindowedHdr.Runtime.Shapes
import WindowedHdr.Runtime.Rights
import WindowedHdr.Runtime.Forwarding
import WindowedHdr.Runtime.Resources
import WindowedHdr.Runtime.Tokens
import WindowedHdr.Runtime.CandidateLock
import WindowedHdr.Runtime.Initialization
import WindowedHdr.Runtime.Records
import WindowedHdr.Runtime.ManagedChains
import WindowedHdr.Runtime.ColorSpace
