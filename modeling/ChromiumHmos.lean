import ChromiumHmos.UrlProtection.SiteVerdictCoherence
import ChromiumHmos.UrlProtection.NavigationSafety
import ChromiumHmos.Ozone.GpuChildMirror
import ChromiumHmos.Ozone.RegistryBindings
import ChromiumHmos.Ozone.GpuOutputCapability
import ChromiumHmos.Overlay.RsReleases
import ChromiumHmos.Overlay.PacketLayout
import ChromiumHmos.Overlay.HostTeardown
import ChromiumHmos.Ozone.GpuFailureMarker
import ChromiumHmos.Ozone.PhoneGpuBroker
import ChromiumHmos.Ozone.TouchOrder
import ChromiumHmos.Ozone.PointerCapture
import ChromiumHmos.Adblock.SettingsSafety
import ChromiumHmos.Adblock.RequestRuns
import ChromiumHmos.Passwords.AuthenticationRuns
import ChromiumHmos.Passwords.PasswordNoticeRuns
import ChromiumHmos.Passwords.HuksKeyRuns
import ChromiumHmos.Passwords.PasswordIds
import ChromiumHmos.Shell.StartupRuns
import ChromiumHmos.UrlProtection.CacheTransparency
import ChromiumHmos.UrlProtection.ServiceConfiguration
import ChromiumHmos.UrlProtection.RulePipeline
import ChromiumHmos.UrlProtection.SourceLists
import ChromiumHmos.UrlProtection.RuleCaches
import ChromiumHmos.Overlay.TransactionCompletion
import ChromiumHmos.Overlay.VideoGeometry
import ChromiumHmos.Ozone.PreviewText
import ChromiumHmos.Ozone.InputTarget
import ChromiumHmos.Media.SharedImageCache
import ChromiumHmos.Adblock.Preprocess
import ChromiumHmos.Translation.SegmentSplitting
import ChromiumHmos.Resources.ResourceBudget
import ChromiumHmos.Passkeys.DeadPasskeys
import ChromiumHmos.Passkeys.CredentialRuns
import ChromiumHmos.Shell.PermissionRequests
import ChromiumHmos.Mcp.HttpBoundaries
import ChromiumHmos.Mcp.Evaluate
import ChromiumHmos.Shell.SiteUserAgentRuns
import ChromiumHmos.AuraShell.InputDeduplication
import ChromiumHmos.Ozone.NativePixmapRegistry
import ChromiumHmos.Media.VideoEncoderRuns
import ChromiumHmos.Media.SurfaceOwnership
import ChromiumHmos.Ozone.BufferColorRuns
import ChromiumHmos.Shell.CommandOrderRuns
import ChromiumHmos.Shell.NamedTab
import ChromiumHmos.Shell.PickerRuns
import ChromiumHmos.Shell.WebNfcRuns
import ChromiumHmos.Services.BridgeRuns
import ChromiumHmos.Services.DeviceTables
import ChromiumHmos.Launch.ChildGenerations
import ChromiumHmos.Services.SerialRuns
