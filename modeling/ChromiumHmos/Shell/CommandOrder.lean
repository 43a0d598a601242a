import ChromiumHmos.Lib.Transition
import ChromiumHmos.Base.Value

set_option autoImplicit false

/-!
# The shell's commands

The shell's thread hands commands to the UI thread, one by one or several in a list. Until the UI thread is
known they wait; when it is, the waiting commands are taken under the lock and posted after it.
-/

namespace ChromiumHmos.Shell

open Transition Base

def kMaxPendingCommands : Nat := 64

def kSupportedCommands : List String :=
  ["back", "forward", "reload", "openDevTools", "setDevToolsVisible", "closeDevTools", "stop", "home",
   "pwaHome", "navigate", "newTab", "newIncognitoWindow", "activateTab", "activateTabById",
   "getPageContinuation", "groupTabs", "insertText", "handleBack", "pictureInPictureAction",
   "dragEvent", "pageDragFinished", "closeTab", "closeTabById", "moveTab", "moveTabToNewWindow",
   "fallbackWebPopupToTab", "setRequestDesktopSite", "setTabMuted", "setZoom", "getExtensionActions",
   "runExtensionAction", "installExtensionFromFile", "setExtensionEnabled", "uninstallExtension",
   "getExtensionDetails", "getExtensionUpdateCapabilities", "checkExtensionUpdates",
   "setExtensionSiteAccess", "openExtensionOptions", "setExtensionPinned", "getTabThumbnails",
   "toggleReaderMode", "getRecentlyClosed", "restoreRecentlyClosed", "restoreLastSession", "print",
   "share", "pwaMenu", "pwaMenuAction", "pwaMenuDismiss", "pwaClose", "recoverInput",
   "defaultBrowserState", "systemCapabilities", "sitePermissionDecision", "setAnchorRects",
   "setSurfaceOffset", "setBrowserChrome", "passwordAuthReset", "requestState", "filePickerResult",
   "dateTimePickerResult", "selectPopupResult", "contactsPickerResult", "speechRecognitionEvent",
   "nfcTagRead", "nfcWriteResult", "nfcError", "nfcScanStarted", "launchWebApp", "getWebApps",
   "uninstallWebApp", "installWebApp", "exportWebAppIcon", "permissionResult", "systemPermissionState",
   "setViewportInsets", "setBrowserControls", "setBrowserControlsState", "findInPage", "stopFind",
   "getPageText", "startupProbe", "contextMenuAction", "contextMenuDismissed"]

def kShellServiceCommands : List String :=
  ["listResources", "setResourceMenuLabel", "downloadResource", "clearResources",
   "getTranslationCapabilities", "getTranslationState", "startTranslation", "takeTranslationBatch",
   "applyTranslationBatch", "releaseTranslationBatch", "setTranslationPresentation", "stopTranslation",
   "getAdBlockState", "setAdBlockEnabled", "setAdBlockAutoUpdate", "setAdBlockSourceEnabled",
   "saveAdBlockSource", "removeAdBlockSource", "updateAdBlockSources", "setAdBlockUserRules",
   "importAdBlockFile", "removeAdBlockException", "getAdBlockPageState", "setAdBlockSiteEnabled",
   "getProtectionRuleSources", "addProtectionRuleSource", "updateProtectionRuleSource",
   "removeProtectionRuleSource", "refreshProtectionRuleSource", "getUrlProtectionState",
   "setUrlProtectionConfig", "updateUrlProtectionRules", "getSiteProtectionState",
   "setSiteProtectionEnabled", "getBookmarks", "searchBookmarks", "addBookmark", "removeBookmarkByUrl",
   "updateBookmark", "moveBookmark", "removeBookmark", "createBookmarkFolder", "getBookmarksForUrl",
   "getBookmarkPath", "getRecentBookmarks", "moveBookmarks", "removeBookmarks", "exportBookmarks",
   "importBookmarks", "getBookmarksForSync", "applyBookmarks", "queryHistory", "removeHistoryItems",
   "removeHistoryForUrl", "clearHistory", "autocomplete", "getTopSites", "removeTopSite",
   "listDownloads", "downloadAction", "setDownloadDirectory", "clearBrowsingData",
   "getBrowsingDataCounts", "getSearchEngines", "setDefaultSearchEngine", "getPrefs", "setPref",
   "getPageInfo", "setPagePermission", "clearPageSiteData", "getSiteSettings",
   "getSiteSettingsForOrigin", "setSiteSetting", "setDefaultSiteSetting", "resetSiteSettings",
   "showBlockedPopups", "getAboutInfo", "getSavedPasswords", "passwordAuthGranted", "revealPassword",
   "updatePassword", "deletePassword", "exportPasswords", "importPasswords", "passwordSyncAuthorize",
   "getPasswordsForSync", "applyPasswords", "getFavicons"]

def isShellServiceCommand (name : String) : Bool :=
  kShellServiceCommands.contains name

/-- A command and the window it is for. -/
structure BrowserCommand where
  widget : Nat
  command : DictValue

/-- What is posted to the UI thread. -/
inductive UiTask
  | requestBrowserStateUpdate
  | executeBrowserCommand (posted : BrowserCommand)
  | applyWindowState
  | navigate (widget : Nat) (url : String)
  | reloadThemeFonts (fontId : String)
  | shutdown

def UiTask.command? : UiTask -> Option BrowserCommand
  | .executeBrowserCommand posted => some posted
  | _ => none

structure CommandBridge where
  -- `ui_task_runner` is set
  uiTaskRunner : Bool := false
  pendingCommands : List BrowserCommand := []
  pendingUrl : Option String := none
  requestedThemeFontId : Option String := none
  pendingThemeFontId : Option String := none
  pendingShutdown : Bool := false
  -- what `NotifyAuraShellBrowserStarted` has still to post
  starting : List UiTask := []
  -- the entries `ExecuteAuraShellBrowserCommand` has not come to yet
  widget : Nat := 0
  entries : List Value := []
  postedAll : Bool := true
  -- the task for which the shell's thread has read the task runner, not posted yet
  sending : Option UiTask := none
  -- the UI thread's queue
  tasks : List UiTask := []
  -- the commands `PostBrowserCommand` returned true for, and those the UI thread was handed
  accepted : List BrowserCommand := []
  handed : List BrowserCommand := []

namespace CommandBridge

/-- The entries of a command text, of which the reader made `parsed`. -/
def entriesOf : Option Value -> List Value
  | none => []
  | some (.list items) => items
  | some single => [single]

def executeAuraShellBrowserCommand (widget : Nat) (parsed : Option Value) (s : CommandBridge) : CommandBridge :=
  { s with widget := widget, entries := entriesOf parsed, postedAll := parsed.isSome }

def supported (command : DictValue) : Bool :=
  match command.findString "command" with
  | none => false
  | some name => isShellServiceCommand name || kSupportedCommands.contains name

/-- Up to the end of the lock; where the task runner was read, the task is posted after it. -/
def postBrowserCommand (posted : BrowserCommand) (s : CommandBridge) : CommandBridge :=
  if !supported posted.command then { s with postedAll := false }
  else if s.uiTaskRunner then
    { s with sending := some (.executeBrowserCommand posted), accepted := s.accepted ++ [posted] }
  else if kMaxPendingCommands <= s.pendingCommands.length then { s with postedAll := false }
  else { s with pendingCommands := s.pendingCommands ++ [posted], accepted := s.accepted ++ [posted] }

/-- The next entry of the list. -/
def postNext (s : CommandBridge) : CommandBridge :=
  match s.entries with
  | [] => s
  | .dict command :: rest => postBrowserCommand { widget := s.widget, command } { s with entries := rest }
  | _ :: rest => { s with entries := rest, postedAll := false }

def navigateAuraShellBrowser (widget : Nat) (url : Option String) (s : CommandBridge) : CommandBridge :=
  match url with
  | none => s
  | some target =>
    if s.uiTaskRunner then { s with sending := some (.navigate widget target) }
    else { s with pendingUrl := some target }

def notifyAuraShellThemeFontChanged (fontId : String) (s : CommandBridge) : CommandBridge :=
  if s.requestedThemeFontId = some fontId then s
  else if s.uiTaskRunner then
    { s with requestedThemeFontId := some fontId, sending := some (.reloadThemeFonts fontId) }
  else { s with requestedThemeFontId := some fontId, pendingThemeFontId := some fontId }

def shutdownAuraShellBrowser (s : CommandBridge) : CommandBridge :=
  if s.uiTaskRunner then { s with sending := some .shutdown }
  else { s with pendingShutdown := true }

/-- The shell's thread posts the task it holds. -/
def postTask (s : CommandBridge) : CommandBridge :=
  { s with sending := none, tasks := s.tasks ++ s.sending.toList }

-- What is posted once the lock is released, in the order of the source.
def startingTasks (s : CommandBridge) : List UiTask :=
  .requestBrowserStateUpdate :: s.pendingCommands.map .executeBrowserCommand ++
    .applyWindowState :: (s.pendingUrl.map (.navigate 0)).toList ++
      (s.pendingThemeFontId.map .reloadThemeFonts).toList ++
        if s.pendingShutdown then [.shutdown] else []

def notifyAuraShellBrowserStarted (s : CommandBridge) : CommandBridge :=
  { s with
    uiTaskRunner := true
    starting := s.startingTasks
    pendingCommands := []
    pendingUrl := none
    pendingThemeFontId := none
    pendingShutdown := false }

def notifyPost (s : CommandBridge) : CommandBridge :=
  { s with starting := s.starting.tail, tasks := s.tasks ++ s.starting.head?.toList }

def runTask (s : CommandBridge) : CommandBridge :=
  { s with tasks := s.tasks.tail, handed := s.handed ++ (s.tasks.head?.bind UiTask.command?).toList }

def notifyAuraShellBrowserStopped (s : CommandBridge) : CommandBridge :=
  { s with uiTaskRunner := false }

inductive Step
  | executeAuraShellBrowserCommand (widget : Nat) (parsed : Option Value)
  | navigateAuraShellBrowser (widget : Nat) (url : Option String)
  | notifyAuraShellThemeFontChanged (fontId : String)
  | shutdownAuraShellBrowser
  | postNext
  | postTask
  | notifyAuraShellBrowserStarted
  | notifyPost
  | runTask
  | notifyAuraShellBrowserStopped

def next (s : CommandBridge) : Step -> CommandBridge
  | .executeAuraShellBrowserCommand widget parsed => s.executeAuraShellBrowserCommand widget parsed
  | .navigateAuraShellBrowser widget url => s.navigateAuraShellBrowser widget url
  | .notifyAuraShellThemeFontChanged fontId => s.notifyAuraShellThemeFontChanged fontId
  | .shutdownAuraShellBrowser => s.shutdownAuraShellBrowser
  | .postNext => s.postNext
  | .postTask => s.postTask
  | .notifyAuraShellBrowserStarted => s.notifyAuraShellBrowserStarted
  | .notifyPost => s.notifyPost
  | .runTask => s.runTask
  | .notifyAuraShellBrowserStopped => s.notifyAuraShellBrowserStopped

def shellIdle (s : CommandBridge) : Prop := s.entries = [] /\ s.sending.isNone

/-- What each thread can do next. -/
def Allowed (s : CommandBridge) : Step -> Prop
  | .executeAuraShellBrowserCommand _ _ | .navigateAuraShellBrowser _ _ | .notifyAuraShellThemeFontChanged _
  | .shutdownAuraShellBrowser => s.shellIdle
  | .postNext => s.entries ≠ [] /\ s.sending.isNone
  | .postTask => s.sending.isSome
  | .notifyAuraShellBrowserStarted | .notifyAuraShellBrowserStopped => s.starting = []
  | .notifyPost => s.starting ≠ []
  | .runTask => s.starting = [] /\ s.tasks ≠ []

def commandsOf (tasks : List UiTask) : List BrowserCommand := tasks.filterMap UiTask.command?

/-- The accepted commands still to be handed out, in the order in which they are. -/
def underway (s : CommandBridge) : List BrowserCommand :=
  commandsOf s.tasks ++ commandsOf s.starting ++ commandsOf s.sending.toList ++ s.pendingCommands

/-- No command is posted from the shell's thread while one that waited is still to be posted. -/
def Unhurried (s : CommandBridge) : Step -> Prop
  | .postTask => commandsOf s.sending.toList = [] \/ commandsOf s.starting = []
  | _ => True

def offeredBy : Step -> List BrowserCommand
  | .executeAuraShellBrowserCommand widget parsed => (entriesOf parsed).filterMap fun entry =>
    match entry with
    | .dict command => some { widget, command }
    | _ => none
  | _ => []

/-- The steps that only carry on with what is underway. -/
def carriesOn : Step -> Prop
  | .postTask | .notifyPost | .runTask => True
  | _ => False

def remaining (s : CommandBridge) : Nat :=
  2 * s.starting.length + 2 * s.sending.toList.length + s.tasks.length

end CommandBridge

end ChromiumHmos.Shell
