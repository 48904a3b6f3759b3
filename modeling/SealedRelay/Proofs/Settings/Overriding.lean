import SealedRelay.Settings.Resolve

/-!
# Flags hide what the file says

The settings of the local relay depend on what flags and file set together, where a value of the file
counts only if its flag is not set. So a file's value under a flag is of no consequence, be it one that
could not even be read.

Results:
* `resolveLocal_atop`: what the file sets could as well be set by flags.
* `atop_congr`: under its flags, all that can differ between two files is hidden.
* `resolveLocal_auth`: the credentials are those that were given, both parts of them.
* `flags_hide_file`: all of it together.
-/
namespace SealedRelay.Settings

namespace LocalFlags

/-- The flags, and where none is set the file's value. -/
def atop (flags : LocalFlags) (file : File) : LocalFlags where
  config := flags.config
  listen := if flags.listen.isEmpty then file.proxy.listen else flags.listen
  remote := flags.remote <|> file.proxy.remote
  secret := flags.secret <|> file.secret
  socksUsername := flags.socksUsername <|> file.proxy.socksUsername
  socksPassword := flags.socksPassword <|> file.proxy.socksPassword
  maxStreams := flags.maxStreams <|> file.proxy.maxStreams
  maxConnections := flags.maxConnections <|> file.proxy.maxConnections
  connectTimeout := flags.connectTimeout <|> file.proxy.connectTimeout
  openTimeout := flags.openTimeout <|> file.proxy.openTimeout
  shutdownGrace := flags.shutdownGrace <|> file.proxy.shutdownGrace

/-- Two files that say the same wherever no flag is set. -/
structure Hides (flags : LocalFlags) (a b : File) : Prop where
  secret : flags.secret = none → a.secret = b.secret
  listen : flags.listen = [] → a.proxy.listen = b.proxy.listen
  remote : flags.remote = none → a.proxy.remote = b.proxy.remote
  socksUsername : flags.socksUsername = none → a.proxy.socksUsername = b.proxy.socksUsername
  socksPassword : flags.socksPassword = none → a.proxy.socksPassword = b.proxy.socksPassword
  maxStreams : flags.maxStreams = none → a.proxy.maxStreams = b.proxy.maxStreams
  maxConnections : flags.maxConnections = none → a.proxy.maxConnections = b.proxy.maxConnections
  connectTimeout : flags.connectTimeout = none → a.proxy.connectTimeout = b.proxy.connectTimeout
  openTimeout : flags.openTimeout = none → a.proxy.openTimeout = b.proxy.openTimeout
  shutdownGrace : flags.shutdownGrace = none → a.proxy.shutdownGrace = b.proxy.shutdownGrace

end LocalFlags

variable {flags : LocalFlags} {a b file : File} {c : Proxy.Config}

/-! ## One record of settings -/

theorem orElse_congr {α : Type} {flag a b : Option α} (h : flag = none → a = b) :
    (flag <|> a) = (flag <|> b) := by
  cases flag with
  | none => exact h rfl
  | some => rfl

theorem LocalFlags.atop_congr (h : flags.Hides a b) : flags.atop a = flags.atop b := by
  have hlisten : (if flags.listen.isEmpty then a.proxy.listen else flags.listen) =
      if flags.listen.isEmpty then b.proxy.listen else flags.listen := by
    split
    · rename_i hempty
      exact h.listen (List.isEmpty_iff.1 hempty)
    · rfl
  simp only [atop, orElse_congr h.secret, hlisten, orElse_congr h.remote, orElse_congr h.socksUsername,
    orElse_congr h.socksPassword, orElse_congr h.maxStreams, orElse_congr h.maxConnections,
    orElse_congr h.connectTimeout, orElse_congr h.openTimeout, orElse_congr h.shutdownGrace]

theorem orElse_none {α : Type} (x : Option α) : (x <|> none) = x := by
  cases x <;> rfl

/-- The listeners are those of the first list that is not empty, whoever gave it. -/
theorem resolveListeners_atop (flag file : List String) (default : List Proxy.Listener) :
    resolveListeners (if flag.isEmpty then file else flag) [] default =
      resolveListeners flag file default := by
  simp only [resolveListeners]
  generalize (if flag.isEmpty then file else flag) = values
  cases values <;> rfl

/-- What the file sets could as well be set by flags. -/
theorem resolveLocal_atop (flags : LocalFlags) (file : File) :
    resolveLocal (flags.atop file) {} = resolveLocal flags file := by
  simp only [resolveLocal, LocalFlags.atop, resolveSecret, pickDuration, orElse_none,
    resolveListeners_atop]

/-! ## Credentials -/

theorem exists_of_bind_eq_ok {ε α β : Type} {x : Except ε α} {f : α → Except ε β} {y : β}
    (h : x >>= f = .ok y) : ∃ z, x = .ok z ∧ f z = .ok y := by
  cases x with
  | error => cases h
  | ok z => exact ⟨z, rfl, h⟩

/-- The credentials of settings that were resolved are made of what flags and file give. -/
theorem resolveLocal_auth (h : resolveLocal flags file = .ok c) :
    resolveAuth (flags.socksUsername <|> file.proxy.socksUsername)
      (flags.socksPassword <|> file.proxy.socksPassword) = .ok c.auth := by
  obtain ⟨secret, -, h⟩ := exists_of_bind_eq_ok h
  obtain ⟨listeners, -, h⟩ := exists_of_bind_eq_ok h
  obtain ⟨auth, hauth, h⟩ := exists_of_bind_eq_ok h
  obtain ⟨connectTimeout, -, h⟩ := exists_of_bind_eq_ok h
  obtain ⟨openTimeout, -, h⟩ := exists_of_bind_eq_ok h
  obtain ⟨shutdownGrace, -, h⟩ := exists_of_bind_eq_ok h
  obtain ⟨_, -, h⟩ := exists_of_bind_eq_ok h
  cases h
  exact hauth

/-- Credentials have both parts, or there are none because neither was given. -/
theorem resolveAuth_eq_ok_iff {username password : Option String} {auth : Option Proxy.Credentials} :
    resolveAuth username password = .ok auth ↔
      username = auth.map (·.username) ∧ password = auth.map (·.password) := by
  constructor
  · intro h
    cases username <;> cases password <;> cases h <;> exact ⟨rfl, rfl⟩
  · rintro ⟨rfl, rfl⟩
    cases auth <;> rfl

theorem isSome_orElse {α : Type} {x y : Option α} (h : x.isSome ∨ y.isSome) : (x <|> y).isSome := by
  cases x with
  | none => exact h.resolve_left nofun
  | some => rfl

/-- **Flags hide what the file says.** Two files that say the same wherever no flag is set lead to the
same settings or to the same error, whatever else they say. And if a username or a password is given
by either source, settings that are resolved ask SOCKS5 clients for just these two. -/
theorem flags_hide_file :
    (∀ (flags : LocalFlags) (a b : File), flags.Hides a b →
      resolveLocal flags a = resolveLocal flags b) ∧
    ∀ (flags : LocalFlags) (file : File) (c : Proxy.Config), resolveLocal flags file = .ok c →
      flags.socksUsername.isSome ∨ file.proxy.socksUsername.isSome ∨
        flags.socksPassword.isSome ∨ file.proxy.socksPassword.isSome →
      ∃ credentials, c.auth = some credentials ∧
        (flags.socksUsername <|> file.proxy.socksUsername) = some credentials.username ∧
        (flags.socksPassword <|> file.proxy.socksPassword) = some credentials.password := by
  refine ⟨fun flags a b h => ?_, fun flags file c h given => ?_⟩
  · rw [← resolveLocal_atop flags a, LocalFlags.atop_congr h, resolveLocal_atop flags b]
  · obtain ⟨husername, hpassword⟩ := resolveAuth_eq_ok_iff.1 (resolveLocal_auth h)
    cases hauth : c.auth with
    | some credentials =>
      rw [hauth] at husername hpassword
      exact ⟨credentials, rfl, husername, hpassword⟩
    | none =>
      rw [hauth] at husername hpassword
      rcases or_assoc.2 given with hname | hword
      · cases husername ▸ isSome_orElse hname
      · cases hpassword ▸ isSome_orElse hword

/-- Flags for what `bothered` gets wrong, and a password for its username. -/
def thorough : LocalFlags where
  secret := some "from a flag"
  listen := ["socks5@127.0.0.1:1080"]
  connectTimeout := some "3s"
  socksPassword := some "open sesame"

/-- A file with a listener and a span of time that cannot be read. -/
def bothered : File where
  proxy := { listen := ["gopher@127.0.0.1:70"], connectTimeout := some "soon", socksUsername := some "ali" }

/-- Nothing that the thorough flags leave open is different here. -/
def silent : File where
  secret := some "from a file"
  proxy := { socksUsername := some "ali" }
  gateway := { listen := some "0.0.0.0:9528" }

theorem unreadable_values_hidden :
    thorough.Hides bothered silent ∧ resolveLocal thorough bothered = resolveLocal thorough silent ∧
      ∃ c, resolveLocal thorough bothered = .ok c ∧ c.auth = some ⟨"ali", "open sesame"⟩ := by
  have hides : thorough.Hides bothered silent := by constructor <;> decide
  obtain ⟨hsame, hauth⟩ := flags_hide_file
  have hok : (resolveLocal thorough bothered).isOk = true := by decide +kernel
  cases hresolved : resolveLocal thorough bothered with
  | error => rw [hresolved] at hok; cases hok
  | ok c =>
    obtain ⟨credentials, hc, husername, hpassword⟩ := hauth thorough bothered c hresolved (.inr (.inl rfl))
    obtain ⟨username, password⟩ := credentials
    cases husername
    cases hpassword
    exact ⟨hides, hresolved ▸ hsame thorough bothered silent hides, c, rfl, hc⟩

end SealedRelay.Settings
