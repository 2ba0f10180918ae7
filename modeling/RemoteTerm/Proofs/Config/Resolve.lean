import RemoteTerm.Config.Resolve
/-!
What comes of settings and a file. The values of the file and the settings over them are what
counts, and they are accepted or not as a whole, but for one case: a file whose only flaw is its
empty session is refused even if the settings name another one.
-/

namespace RemoteTerm.Config

-- The values of a file, be they accepted or not. There are none if it cannot be read, or if it is
-- not a document in which every field has its type.
def ofReading? : Reading → Option Config
  | .missing       => some {}
  | .unreadable    => none
  | .content bytes =>
    (Text.Utf8.decode? bytes).bind fun cs => (Toml.ofText? (String.ofList cs)).bind ofToml?

-- The values of the file that counts.
def filed? (s : CommandLine.Settings) (env : Environment) (read : String → Reading) :
    Option Config :=
  (path? s env).elim (some {}) fun path => ofReading? (read path)

-- The values of the file, and the settings over them.
def merged? (s : CommandLine.Settings) (env : Environment) (read : String → Reading) :
    Option Config :=
  (filed? s env read).map (·.override s)

-- The promise of settings: the merged values come out just if they have no flaw.
def Settles (s : CommandLine.Settings) (env : Environment) (read : String → Reading) : Prop :=
  ∀ c, resolve s env read = .ok c ↔ merged? s env read = some c ∧ c.flaw? = none

-- The session of the file is its only flaw, and the settings have another session.
def Shadows (s : CommandLine.Settings) (env : Environment) (read : String → Reading) : Prop :=
  ∃ c id, filed? s env read = some c ∧ c.flaw? = some .emptySession ∧ s.session = some id ∧ id ≠ ""

variable {s : CommandLine.Settings} {env : Environment} {read : String → Reading} {r : Reading}
  {c m : Config}

theorem accept_eq_ok_iff : c.accept = .ok m ↔ c = m ∧ c.flaw? = none := by
  cases h : c.flaw? <;> simp [accept, h]

theorem accept_eq_error_iff {f : Flaw} : c.accept = .error f ↔ c.flaw? = some f := by
  cases h : c.flaw? <;> simp [accept, h]

theorem mapError_eq_ok_iff {ε δ α : Type} {f : ε → δ} {x : Except ε α} {a : α} :
    x.mapError f = .ok a ↔ x = .ok a := by
  cases x
  case error => exact ⟨nofun, nofun⟩
  case ok b  =>
    show Except.ok b = Except.ok a ↔ _
    simp

theorem mapError_eq_error_iff {ε δ α : Type} {f : ε → δ} {x : Except ε α} {e : δ} :
    x.mapError f = .error e ↔ ∃ d, e = f d ∧ x = .error d := by
  cases x
  case ok      => exact ⟨nofun, nofun⟩
  case error d =>
    show Except.error (f d) = Except.error e ↔ _
    simp [eq_comm]

theorem flaw?_default : flaw? {} = none := rfl

theorem load_of_some (h : ofReading? r = some c) : load r = c.accept.mapError .invalid := by
  cases r
  case missing    => cases h; rfl
  case unreadable => cases h
  case content bytes =>
    obtain ⟨cs, hd, hc⟩ := Option.bind_eq_some_iff.mp h
    simp [load, hd, ofText, hc]

theorem load_of_none (h : ofReading? r = none) : ∃ e, load r = .error e := by
  cases r
  case missing    => cases h
  case unreadable => exact ⟨_, rfl⟩
  case content bytes =>
    cases hd : Text.Utf8.decode? bytes
    case none    => exact ⟨.unreadable, by simp [load, hd]⟩
    case some cs =>
      have hc : (Toml.ofText? (String.ofList cs)).bind ofToml? = none := by
        simpa only [ofReading?, hd, Option.bind_some] using h
      exact ⟨.malformed, by simp [load, hd, ofText, hc]⟩

theorem resolve_of_error {path : String} {e : Error} (hp : path? s env = some path)
    (h : load (read path) = .error e) : resolve s env read = .error (.file path e) := by
  simp only [resolve, hp, h]
  rfl

-- A file that is accepted by itself leaves the merged values to be accepted.
theorem resolve_of_accepted (h : filed? s env read = some c) (hf : c.flaw? = none) :
    resolve s env read = (c.override s).accept.mapError .merged := by
  cases hp : path? s env
  case none =>
    obtain rfl : {} = c := by simpa [filed?, hp] using h
    simp only [resolve, hp]
    rfl
  case some path =>
    have hc : ofReading? (read path) = some c := by simpa [filed?, hp] using h
    have hl : load (read path) = .ok c := by
      rw [load_of_some hc, mapError_eq_ok_iff]
      exact accept_eq_ok_iff.mpr ⟨rfl, hf⟩
    simp only [resolve, hp, hl]
    rfl

-- A file that is not accepted by itself is refused, whatever the settings are.
theorem resolve_of_flawed {f : Flaw} (h : filed? s env read = some c) (hf : c.flaw? = some f) :
    ∃ path, resolve s env read = .error (.file path (.invalid f)) := by
  cases hp : path? s env
  case none =>
    obtain rfl : {} = c := by simpa [filed?, hp] using h
    cases flaw?_default.symm.trans hf
  case some path =>
    have hc : ofReading? (read path) = some c := by simpa [filed?, hp] using h
    refine ⟨path, resolve_of_error hp ?_⟩
    rw [load_of_some hc, accept, hf]
    rfl

theorem resolve_of_none (h : filed? s env read = none) : ∃ e, resolve s env read = .error e := by
  cases hp : path? s env
  case none => simp [filed?, hp] at h
  case some path =>
    obtain ⟨e, hl⟩ := load_of_none (r := read path) (by simpa [filed?, hp] using h)
    exact ⟨_, resolve_of_error hp hl⟩

-- Settings do away with one flaw, and can bring in the same one.
theorem flaw?_override :
    (c.override s).flaw? = none ↔
      c.flaw? = none ∧ s.session ≠ some "" ∨
        c.flaw? = some .emptySession ∧ ∃ id, s.session = some id ∧ id ≠ "" := by
  cases h : s.session <;> simp only [flaw?, override, h] <;> grind

-- The merged values come out as they should, unless the session of the file stands in their way.
theorem settles_iff : Settles s env read ↔ ¬ Shadows s env read := by
  constructor
  case mp =>
    rintro h ⟨c, id, hc, hf, hs, hid⟩
    have hm : merged? s env read = some (c.override s) := by simp [merged?, hc]
    have hr := (h _).mpr ⟨hm, flaw?_override.mpr (.inr ⟨hf, id, hs, hid⟩)⟩
    obtain ⟨path, he⟩ := resolve_of_flawed hc hf
    cases he.symm.trans hr
  case mpr =>
    intro h m
    cases hc : filed? s env read
    case none =>
      obtain ⟨e, he⟩ := resolve_of_none hc
      simp [he, merged?, hc]
    case some c =>
      cases hf : c.flaw?
      case none =>
        rw [resolve_of_accepted hc hf, mapError_eq_ok_iff, accept_eq_ok_iff]
        simp only [merged?, hc, Option.map_some, Option.some.injEq]
        exact and_congr_right fun h => h ▸ Iff.rfl
      case some f =>
        obtain ⟨path, he⟩ := resolve_of_flawed hc hf
        have hn : (c.override s).flaw? ≠ none := by
          intro ho
          obtain ⟨hn, -⟩ | ⟨he, id, hs, hid⟩ := flaw?_override.mp ho
          · cases hf.symm.trans hn
          · exact h ⟨c, id, hc, he, hs, hid⟩
        simp only [he, merged?, hc, Option.map_some, Option.some.injEq, reduceCtorEq, false_iff]
        rintro ⟨rfl, ho⟩
        exact hn ho

-- The settings have a session, but the file's own one is empty.
theorem not_settles_emptySession :
    ¬ Settles { config := some "f.toml", session := some "ok" } []
      fun _ => .content (Bytes.ofString "[server]\nsession = ''\n") := by
  intro h
  have hc : filed? { config := some "f.toml", session := some "ok" } []
      (fun _ => .content (Bytes.ofString "[server]\nsession = ''\n")) =
        some { server := { session := "" } } := by
    decide +kernel
  have hm := (h { server := { session := "ok" } }).mpr ⟨by rw [merged?, hc]; rfl, rfl⟩
  obtain ⟨path, he⟩ := resolve_of_flawed hc rfl
  cases he.symm.trans hm

end RemoteTerm.Config
