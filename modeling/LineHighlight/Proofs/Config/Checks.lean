import LineHighlight.Config.Yaml
import LineHighlight.Proofs.Decode.Steps
import LineHighlight.Proofs.Text.Folding

/-! The checks of a configuration.
They are made in a fixed order and the first one that fails is reported. Every field with a
condition on it is checked, apart from the directory of the payload. -/

namespace LineHighlight

namespace Config

/-- What the checks ask of a configuration. -/
structure Usable (c : Config) : Prop where
  timeout : 0 < c.server.requestTimeout
  name : Text.trim c.engine.resourceName ≠ ""
  extension : Text.trim c.engine.resourceExtension ≠ ""
  entryPoint : Text.trim c.engine.entryPoint ≠ ""
  memory : c.engine.memoryLimit ≠ some 0

/-- The checks in their order, with the complaint of each. -/
def failures (c : Config) : List (Bool × String) :=
  [(c.server.requestTimeout = 0, "server.request_timeout_ms must be > 0"),
    (Text.trim c.engine.resourceName = "", "engine.resource_name cannot be empty"),
    (Text.trim c.engine.resourceExtension = "", "engine.resource_extension cannot be empty"),
    (Text.trim c.engine.entryPoint = "", "engine.entry_point cannot be empty"),
    (c.engine.memoryLimit = some 0, "engine.memory_limit_bytes must be > 0 when set")]

/-- The complaints of the checks that fail. -/
def complaints (c : Config) : List String :=
  (c.failures.filter Prod.fst).map Prod.snd

theorem complaints_eq_nil_iff {c : Config} : c.complaints = [] ↔ c.Usable := by
  simp only [complaints, failures, List.map_eq_nil_iff, List.filter_eq_nil_iff,
    List.forall_mem_cons, decide_eq_true_eq, List.not_mem_nil, false_implies, implies_true,
    and_true]
  constructor
  · rintro ⟨htimeout, hname, hextension, hentry, hmemory⟩
    exact ⟨Nat.pos_of_ne_zero htimeout, hname, hextension, hentry, hmemory⟩
  · rintro ⟨htimeout, hname, hextension, hentry, hmemory⟩
    exact ⟨Nat.pos_iff_ne_zero.mp htimeout, hname, hextension, hentry, hmemory⟩

theorem requireText_eq (field value : String) :
    EngineSettings.requireText field value =
      if Text.trim value = "" then .error (.config (field ++ " cannot be empty")) else .ok () := by
  simp only [EngineSettings.requireText, Text.trim_eq_empty_iff]

/-- The complaint of the first check that fails. -/
def refuseFirst : List (Bool × String) → Except Error Unit
  | [] => .ok ()
  | (fails, complaint) :: rest => if fails then .error (.config complaint) else refuseFirst rest

theorem refuseFirst_eq (checks : List (Bool × String)) :
    refuseFirst checks = match ((checks.filter Prod.fst).map Prod.snd).head? with
      | none => .ok ()
      | some complaint => .error (.config complaint) := by
  induction checks with
  | nil => rfl
  | cons check rest ih =>
      obtain ⟨fails, complaint⟩ := check
      cases fails with
      | true => rfl
      | false => exact ih

theorem validate_eq_refuseFirst (c : Config) : c.validate = refuseFirst c.failures := by
  simp only [validate, EngineSettings.validate, requireText_eq, failures, refuseFirst,
    decide_eq_true_eq]
  split
  · rfl
  split
  · rfl
  split
  · rfl
  split
  · rfl
  split
  · rfl
  · rfl

theorem validate_eq (c : Config) :
    c.validate = match c.complaints.head? with
      | none => .ok ()
      | some complaint => .error (.config complaint) := by
  rw [validate_eq_refuseFirst, refuseFirst_eq, complaints]

theorem validate_eq_ok_iff {c : Config} : c.validate = .ok () ↔ c.Usable := by
  rw [validate_eq, ← complaints_eq_nil_iff]
  cases c.complaints with
  | nil => simp
  | cons complaint rest => simp

/-! ## Documents -/

theorem ofDocument_eq_ok_iff {d : Yaml.Document} {c : Config} :
    ofDocument d = .ok c ↔ decode d = .ok c ∧ c.Usable := by
  rw [ofDocument]
  cases decode d with
  | error m => simp
  | ok c' =>
      simp only [map_eq_ok_iff, Except.ok.injEq, ← validate_eq_ok_iff]
      constructor
      · rintro ⟨_, hvalid, rfl⟩
        exact ⟨rfl, hvalid⟩
      · rintro ⟨rfl, hvalid⟩
        exact ⟨(), hvalid, rfl⟩

theorem ofDocument_eq_error {d : Yaml.Document} {c : Config} {complaint : String}
    (hdecode : decode d = .ok c) (hfirst : c.complaints.head? = some complaint) :
    ofDocument d = .error (.config complaint) := by
  simp only [ofDocument, hdecode, validate_eq, hfirst]
  rfl

theorem ofDocument_config {d : Yaml.Document} {e : Error} (h : ofDocument d = .error e) :
    ∃ reason, e = .config reason := by
  rw [ofDocument] at h
  cases hdecode : decode d with
  | error m =>
      rw [hdecode] at h
      exact ⟨m.message, (Except.error.inj h).symm⟩
  | ok c =>
      rw [hdecode] at h
      simp only [validate_eq] at h
      cases hfirst : c.complaints.head? with
      | none =>
          rw [hfirst] at h
          cases h
      | some complaint =>
          rw [hfirst] at h
          exact ⟨complaint, (Except.error.inj h).symm⟩

theorem parse_of_read? {text : String} {d : Yaml.Document}
    (h : Yaml.Document.read? text = some d) : parse text = ofDocument d := by
  rw [parse, h]

/-- What holds of the configurations that are read from a text. -/
structure AcceptedSpec (text : String) : Prop where
  accepted_iff : ∀ c, parse text = .ok c ↔
    (∃ d, Yaml.Document.read? text = some d ∧ decode d = .ok c) ∧ c.Usable
  sound : ∀ c, parse text = .ok c →
    0 < c.server.requestTimeout ∧ c.engine.resourceName ≠ "" ∧
      c.engine.resourceExtension ≠ "" ∧ c.engine.entryPoint ≠ "" ∧
      ∀ limit, c.engine.memoryLimit = some limit → 0 < limit
  /-- No check looks at the directory. -/
  directory : ∀ c dir,
    validate { c with engine := { c.engine with resourceDir := dir } } = validate c

theorem accepted_spec (text : String) : AcceptedSpec text := by
  have hiff : ∀ c, parse text = .ok c ↔
      (∃ d, Yaml.Document.read? text = some d ∧ decode d = .ok c) ∧ c.Usable := by
    intro c
    cases hread : Yaml.Document.read? text with
    | none => simp [parse, hread]
    | some d => simp [parse_of_read? hread, ofDocument_eq_ok_iff]
  refine ⟨hiff, ?_, ?_⟩
  · intro c h
    obtain ⟨-, hc⟩ := (hiff c).mp h
    refine ⟨hc.timeout, Text.ne_empty_of_trim hc.name, Text.ne_empty_of_trim hc.extension,
      Text.ne_empty_of_trim hc.entryPoint, ?_⟩
    intro limit hlimit
    have hmemory := hc.memory
    rw [hlimit] at hmemory
    exact Nat.pos_of_ne_zero fun hzero => hmemory (congrArg some hzero)
  · intro c dir
    rfl

/-- An empty directory is accepted. -/
theorem accepted_empty_directory :
    ∃ c, parse "engine:\n  resource_dir: ''\n" = .ok c ∧ c.engine.resourceDir = "" :=
  ⟨{ engine := { resourceDir := "" } }, by decide +kernel, rfl⟩

end Config

end LineHighlight
