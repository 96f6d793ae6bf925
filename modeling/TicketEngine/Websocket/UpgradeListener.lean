import TicketEngine.Framework.Machine
import TicketEngine.Framework.UrlAuthority

namespace TicketEngine

/-! ## The upgrade listener -/

def WEBSOCKET_PATH : String := "/ws"

/-- `http://localhost` -/
def localhost : Url.Base := ⟨"http".toList, [[]], by decide, by decide⟩

/-- How a call of the listener ends. -/
inductive UpgradeOutcome
  | destroyed
  | handleUpgrade
  | thrown
  deriving DecidableEq

section Listener

variable (unicodeToASCII : List UInt8 → Option (List Char))

/-- The listener of `upgrade`, on the target of the request. -/
def upgrade (url : Option String) : UpgradeOutcome :=
  match Url.parse unicodeToASCII localhost (url.getD "/") with
  | none => .thrown
  | some requestUrl =>
    if Url.pathname requestUrl ≠ WEBSOCKET_PATH then .destroyed else .handleUpgrade

/-- The server process: it answers requests, or has exited. -/
inductive ServerProcess
  | listening
  | exited
  deriving DecidableEq

/-- The handler of `uncaughtException` exits the process. -/
def ServerProcess.step (process : ServerProcess) (url : Option String) : Option ServerProcess :=
  match process, upgrade unicodeToASCII url with
  | .exited, _ => none
  | .listening, .thrown => some .exited
  | .listening, _ => some .listening

/-- One upgrade request after the other. -/
def upgradeServer : Machine ServerProcess (Option String) where
  step := ServerProcess.step unicodeToASCII

/-- The target names no host, or one that a URL may have. -/
def Resolvable (url : Option String) : Prop :=
  (Url.hostReference localhost (Url.cleaned (url.getD "/").toList)).Valid unicodeToASCII

variable {unicodeToASCII}

/-- The listener throws exactly on the targets that name a host which no URL may have. -/
theorem upgrade_returns_iff (url : Option String) :
    upgrade unicodeToASCII url = .destroyed ∨ upgrade unicodeToASCII url = .handleUpgrade ↔
      Resolvable unicodeToASCII url := by
  rw [Resolvable, ← Url.parse_iff, upgrade]
  cases Url.parse unicodeToASCII localhost (url.getD "/") with
  | none => simp
  | some requestUrl =>
    simp only [Option.isSome_some, iff_true]
    split_ifs
    · exact .inl rfl
    · exact .inr rfl

/-- A target below the root, with at most one slash at its beginning, names no host. -/
theorem resolvable_path {url : Option String} {rest : List Char}
    (hpath : Url.cleaned (url.getD "/").toList = '/' :: rest)
    (hrest : ∀ c ∈ rest.head?, Url.isSlash c = false) : Resolvable unicodeToASCII url := by
  have hafter : Url.afterSlashes ('/' :: rest) = none := by
    cases rest with
    | nil => rfl
    | cons c rest => exact if_neg fun h => by simp [hrest c rfl] at h
  have hletter : Char.isAlpha '/' = false := by decide
  have hscheme : Url.schemeOf ('/' :: rest) = none := if_neg (by simp [hletter])
  rw [Resolvable, hpath, Url.hostReference, hscheme]
  simp only [Url.relativeHost, hafter, Url.HostReference.Valid]

theorem step_resolvable {url : Option String} (h : Resolvable unicodeToASCII url) :
    (upgradeServer unicodeToASCII).step .listening url = some .listening := by
  rcases (upgrade_returns_iff url).mpr h with houtcome | houtcome
  · simp only [upgradeServer, ServerProcess.step, houtcome]
  · simp only [upgradeServer, ServerProcess.step, houtcome]

theorem step_unresolvable {url : Option String} (h : ¬Resolvable unicodeToASCII url) :
    (upgradeServer unicodeToASCII).step .listening url = some .exited := by
  have hthrown : upgrade unicodeToASCII url = .thrown := by
    rw [← upgrade_returns_iff, not_or] at h
    cases houtcome : upgrade unicodeToASCII url with
    | destroyed => exact absurd houtcome h.1
    | handleUpgrade => exact absurd houtcome h.2
    | thrown => rfl
  simp only [upgradeServer, ServerProcess.step, hthrown]

theorem listening_iff (urls : List (Option String)) :
    (upgradeServer unicodeToASCII).Every (· = .listening) .listening urls ↔
      ∀ url ∈ urls, Resolvable unicodeToASCII url := by
  induction urls with
  | nil => simp [Machine.Every]
  | cons url urls ih =>
    rw [List.forall_mem_cons, ← ih]
    by_cases h : Resolvable unicodeToASCII url
    · rw [Machine.every_cons _ (step_resolvable h), and_iff_right rfl, and_iff_right h]
    · rw [Machine.every_cons _ (step_unresolvable h)]
      constructor
      · intro hevery
        cases Machine.Every.head _ hevery.2
      · intro hall
        exact absurd hall.1 h

variable (unicodeToASCII) in
/-- The listener destroys the socket or hands it on exactly when it can resolve the target, and the
server outlives a run of upgrade requests exactly when it can resolve all of them. -/
theorem server_survives_iff :
    (∀ url, upgrade unicodeToASCII url = .destroyed ∨
        upgrade unicodeToASCII url = .handleUpgrade ↔ Resolvable unicodeToASCII url) ∧
      ∀ urls, (upgradeServer unicodeToASCII).Every (· = .listening) .listening urls ↔
        ∀ url ∈ urls, Resolvable unicodeToASCII url :=
  ⟨upgrade_returns_iff, listening_iff⟩

end Listener

example : upgrade (fun _ => none) (some "/ws?token=1") = .handleUpgrade ∧
    upgrade (fun _ => none) (some "/metrics") = .destroyed := by
  decide +kernel

/-- `GET // HTTP/1.1` -/
def slashes : Option String := some "//"

/-- One request with an empty authority ends the process. -/
theorem server_exits_slashes :
    upgrade (fun _ => none) slashes = .thrown ∧
      ¬ ∀ urls, (upgradeServer fun _ => none).Every (· = .listening) .listening urls := by
  have hthrown : upgrade (fun _ => none) slashes = .thrown := by decide +kernel
  refine ⟨hthrown, fun hall => ?_⟩
  have hlistening := (hall [slashes]).2 .exited
    (by simp only [upgradeServer, ServerProcess.step, hthrown])
  cases Machine.Every.head _ hlistening

end TicketEngine
