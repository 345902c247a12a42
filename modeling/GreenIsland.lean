import GreenIsland.Lib.Changes
import GreenIsland.Lib.Custody
import GreenIsland.Lib.Edge
import GreenIsland.Lib.History
import GreenIsland.Lib.Keyed
import GreenIsland.Lib.Largest
import GreenIsland.Lib.Layout
import GreenIsland.Lib.Ledger
import GreenIsland.Lib.Lines
import GreenIsland.Lib.Marked
import GreenIsland.Lib.Overwritten
import GreenIsland.Lib.Recycled
import GreenIsland.Lib.Reference
import GreenIsland.Lib.Run
import GreenIsland.Lib.Scanf
import GreenIsland.Lib.SelfDelimiting
import GreenIsland.Lib.Staged
import GreenIsland.Lib.Trim
import GreenIsland.Lib.Undominated
import GreenIsland.Lib.Upsert
import GreenIsland.Lib.While
import GreenIsland.Lib.WordSet
import GreenIsland.Qt.Basic
import GreenIsland.Qt.Double
import GreenIsland.Qt.Geometry
import GreenIsland.Qt.Json
import GreenIsland.Qt.ModeFlags
import GreenIsland.Qt.Pixels
import GreenIsland.Server.AppIdChanges
import GreenIsland.Server.ApplicationManager
import GreenIsland.Server.CompositorSettings
import GreenIsland.Server.DesignedOutput
import GreenIsland.Server.Diagnostic
import GreenIsland.Server.HotSpots
import GreenIsland.Server.ManagedWindows
import GreenIsland.Server.NativeScreenBackend
import GreenIsland.Server.Output
import GreenIsland.Server.OutputConfiguration
import GreenIsland.Server.RootItem
import GreenIsland.Server.Screen
import GreenIsland.Server.ScreenHistory
import GreenIsland.Server.ScreenManager
import GreenIsland.Server.ScreencastAdmission
import GreenIsland.Server.ScreencastTeardown
import GreenIsland.Server.Screencaster
import GreenIsland.Server.Screenshooter
import GreenIsland.Server.Screenshot
import GreenIsland.Server.SeatWindows
import GreenIsland.Server.WindowOutputs
import GreenIsland.Server.WindowPlacement
import GreenIsland.Server.WlShellFocus
import GreenIsland.Server.WlShellSurface
import GreenIsland.Client.Output
import GreenIsland.Client.Registry
import GreenIsland.Client.Screencast
import GreenIsland.Client.ScreencastGeometry
import GreenIsland.Client.ShmPool
import GreenIsland.Client.ShmPoolArithmetic
import GreenIsland.Client.Touch
import GreenIsland.OutputAgreement
import GreenIsland.Kms.Configuration
import GreenIsland.Kms.Device
import GreenIsland.Kms.Edid
import GreenIsland.Kms.FlipLock
import GreenIsland.Kms.ModeChoice
import GreenIsland.Kms.ModeScan
import GreenIsland.Kms.ModeText
import GreenIsland.Kms.Screen
import GreenIsland.Kms.WindowSurface
import GreenIsland.Platform.Inhibitors
import GreenIsland.Platform.InputDevices
import GreenIsland.Platform.LibInputHandler
import GreenIsland.Platform.LibInputKeyRepeat
import GreenIsland.Platform.LibInputTouch
import GreenIsland.Platform.Logind
import GreenIsland.Platform.PointerPosition
import GreenIsland.Platform.UdevEnumerate
import GreenIsland.Platform.UdevReferences
import GreenIsland.Platform.VtDescriptors
import GreenIsland.Platform.VtHandler
import GreenIsland.Platform.WaylandKeyRepeat
import GreenIsland.Platform.WaylandTouch
import GreenIsland.Platform.WaylandWindow
import GreenIsland.Launcher.CompositorProcess
import GreenIsland.XWayland.DisplayOwnership
import GreenIsland.XWayland.DisplaySearch
import GreenIsland.XWayland.Manager
import GreenIsland.XWayland.NetWmState
import GreenIsland.XWayland.Pairing
import GreenIsland.Tools.Recorder
import GreenIsland.Compositor.BufferLifetime
import GreenIsland.Compositor.BufferRelease
import GreenIsland.Compositor.FrameCallbacks
import GreenIsland.Compositor.XdgConfigure
import GreenIsland.Compositor.Keyboard
import GreenIsland.Compositor.KeyboardFocus
import GreenIsland.Compositor.TextInput
import GreenIsland.Compositor.TextInputSession
import GreenIsland.Compositor.DataDeviceManager
import GreenIsland.Compositor.RetainedSelection
