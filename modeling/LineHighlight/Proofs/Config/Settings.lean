import LineHighlight.Config.Yaml
import LineHighlight.Proofs.Yaml.Outline

/-! The two groups of settings as their mappings say them.
Each setting is the decoded value of its key or the default. -/

namespace LineHighlight

open Yaml

namespace ServerSettings

/-- The known keys, each with the check of its value. -/
def checks : List (String × Decoder Unit) :=
  [("log_level", Yaml.checks text),
    ("request_timeout_ms", Yaml.checks (unsigned "u64" (Nat.pow 2 64)))]

def names : List String :=
  checks.map Prod.fst

/-- The settings that the entries of a mapping say. -/
structure Given (es : Section) (s : ServerSettings) : Prop where
  logLevel : value? es "log_level" text "info" = some s.logLevel
  requestTimeout :
    value? es "request_timeout_ms" (unsigned "u64" (Nat.pow 2 64)) 5000 = some s.requestTimeout

theorem ofYaml_eq_ok_iff {root n : Node} {es : List (String × Node)}
    (hn : root.entries? n = some es) (honce : Once names es) (path : List String)
    (s : ServerSettings) : ofYaml ⟨root, path⟩ n = .ok s ↔ Given (root.leaves es) s := by
  unfold ofYaml
  refine record_eq_ok_iff hn honce (fun fields hfields => ⟨fun h => ?_, fun h => ?_⟩) fun h => ?_
  · obtain ⟨level, hlevel, h⟩ := bind_eq_ok_iff.mp h
    obtain ⟨timeout, htimeout, h⟩ := bind_eq_ok_iff.mp h
    obtain rfl := Except.ok.inj h
    exact ⟨(field_eq_ok_iff hfields (by simp) (.textAs _)).mp hlevel,
      (field_eq_ok_iff hfields (by simp) (.unsigned _ _)).mp htimeout⟩
  · obtain ⟨hlevel, htimeout⟩ := h
    refine bind_eq_ok_iff.mpr ⟨_, (field_eq_ok_iff hfields (by simp) (.textAs _)).mpr hlevel, ?_⟩
    exact bind_eq_ok_iff.mpr
      ⟨_, (field_eq_ok_iff hfields (by simp) (.unsigned _ _)).mpr htimeout, rfl⟩
  · simp only [List.forall_mem_cons, List.not_mem_nil, false_implies, implies_true, and_true]
    exact ⟨fun v hv => checks_of_value? (.textAs _) h.logLevel hv,
      fun v hv => checks_of_value? (.unsigned _ _) h.requestTimeout hv⟩

theorem given_nil_iff {s : ServerSettings} : Given [] s ↔ s = {} := by
  constructor
  · rintro ⟨hlevel, htimeout⟩
    cases s
    cases Option.some.inj hlevel
    cases Option.some.inj htimeout
    rfl
  · rintro rfl
    exact ⟨rfl, rfl⟩

theorem gives : Gives ofYaml names Given {} where
  eq_ok_iff := ofYaml_eq_ok_iff
  nil_iff _ := given_nil_iff

theorem Given.unique {es : Section} {s s' : ServerSettings} (h : Given es s) (h' : Given es s') :
    s = s' := by
  cases s
  cases s'
  cases Option.some.inj (h.logLevel.symm.trans h'.logLevel)
  cases Option.some.inj (h.requestTimeout.symm.trans h'.requestTimeout)
  rfl

theorem Given.congr {es es' : Section} (h : ∀ name ∈ names, es.lookup name = es'.lookup name)
    {s : ServerSettings} (hs : Given es s) : Given es' s where
  logLevel := (value?_congr (h _ (by simp [names, checks])) _ _).symm.trans hs.logLevel
  requestTimeout := (value?_congr (h _ (by simp [names, checks])) _ _).symm.trans hs.requestTimeout

theorem exists_given_iff {es : Section} : (∃ s, Given es s) ↔ Decodes checks es := by
  simp only [Decodes, checks, List.forall_mem_cons, List.not_mem_nil, false_implies, implies_true,
    and_true]
  constructor
  · rintro ⟨s, hlevel, htimeout⟩
    exact ⟨exists_value?_iff.mp ⟨_, hlevel⟩, exists_value?_iff.mp ⟨_, htimeout⟩⟩
  · rintro ⟨hlevel, htimeout⟩
    obtain ⟨level, hlevel⟩ := exists_value?_iff.mpr hlevel
    obtain ⟨timeout, htimeout⟩ := exists_value?_iff.mpr htimeout
    exact ⟨⟨level, timeout⟩, hlevel, htimeout⟩

end ServerSettings

namespace EngineSettings

/-- The known keys, each with the check of its value. -/
def checks : List (String × Decoder Unit) :=
  [("resource_dir", Yaml.checks (textAs "path string")), ("resource_name", Yaml.checks text),
    ("resource_extension", Yaml.checks text), ("entry_point", Yaml.checks text),
    ("load_failure", Yaml.checks (enum LoadFailure.names)),
    ("memory_limit_bytes", Yaml.checks (optional (unsigned "usize" (Nat.pow 2 64))))]

def names : List String :=
  checks.map Prod.fst

/-- The settings that the entries of a mapping say. -/
structure Given (es : Section) (s : EngineSettings) : Prop where
  resourceDir : value? es "resource_dir" (textAs "path string") "resources" = some s.resourceDir
  resourceName : value? es "resource_name" text "highlight.min" = some s.resourceName
  resourceExtension : value? es "resource_extension" text "js" = some s.resourceExtension
  entryPoint : value? es "entry_point" text "hljs" = some s.entryPoint
  loadFailure : value? es "load_failure" (enum LoadFailure.names) .retry = some s.loadFailure
  memoryLimit :
    value? es "memory_limit_bytes" (optional (unsigned "usize" (Nat.pow 2 64))) none =
      some s.memoryLimit

theorem ofYaml_eq_ok_iff {root n : Node} {es : List (String × Node)}
    (hn : root.entries? n = some es) (honce : Once names es) (path : List String)
    (s : EngineSettings) : ofYaml ⟨root, path⟩ n = .ok s ↔ Given (root.leaves es) s := by
  unfold ofYaml
  refine record_eq_ok_iff hn honce (fun fields hfields => ⟨fun h => ?_, fun h => ?_⟩) fun h => ?_
  · obtain ⟨dir, hdir, h⟩ := bind_eq_ok_iff.mp h
    obtain ⟨name, hname, h⟩ := bind_eq_ok_iff.mp h
    obtain ⟨extension, hextension, h⟩ := bind_eq_ok_iff.mp h
    obtain ⟨entry, hentry, h⟩ := bind_eq_ok_iff.mp h
    obtain ⟨policy, hpolicy, h⟩ := bind_eq_ok_iff.mp h
    obtain ⟨limit, hlimit, h⟩ := bind_eq_ok_iff.mp h
    obtain rfl := Except.ok.inj h
    exact ⟨(field_eq_ok_iff hfields (by simp) (.textAs _)).mp hdir,
      (field_eq_ok_iff hfields (by simp) (.textAs _)).mp hname,
      (field_eq_ok_iff hfields (by simp) (.textAs _)).mp hextension,
      (field_eq_ok_iff hfields (by simp) (.textAs _)).mp hentry,
      (field_eq_ok_iff hfields (by simp) (.enum _)).mp hpolicy,
      (field_eq_ok_iff hfields (by simp) (.optional (.unsigned _ _))).mp hlimit⟩
  · obtain ⟨hdir, hname, hextension, hentry, hpolicy, hlimit⟩ := h
    refine bind_eq_ok_iff.mpr ⟨_, (field_eq_ok_iff hfields (by simp) (.textAs _)).mpr hdir, ?_⟩
    refine bind_eq_ok_iff.mpr ⟨_, (field_eq_ok_iff hfields (by simp) (.textAs _)).mpr hname, ?_⟩
    refine bind_eq_ok_iff.mpr
      ⟨_, (field_eq_ok_iff hfields (by simp) (.textAs _)).mpr hextension, ?_⟩
    refine bind_eq_ok_iff.mpr ⟨_, (field_eq_ok_iff hfields (by simp) (.textAs _)).mpr hentry, ?_⟩
    refine bind_eq_ok_iff.mpr ⟨_, (field_eq_ok_iff hfields (by simp) (.enum _)).mpr hpolicy, ?_⟩
    exact bind_eq_ok_iff.mpr
      ⟨_, (field_eq_ok_iff hfields (by simp) (.optional (.unsigned _ _))).mpr hlimit, rfl⟩
  · simp only [List.forall_mem_cons, List.not_mem_nil, false_implies, implies_true, and_true]
    exact ⟨fun v hv => checks_of_value? (.textAs _) h.resourceDir hv,
      fun v hv => checks_of_value? (.textAs _) h.resourceName hv,
      fun v hv => checks_of_value? (.textAs _) h.resourceExtension hv,
      fun v hv => checks_of_value? (.textAs _) h.entryPoint hv,
      fun v hv => checks_of_value? (.enum _) h.loadFailure hv,
      fun v hv => checks_of_value? (.optional (.unsigned _ _)) h.memoryLimit hv⟩

theorem given_nil_iff {s : EngineSettings} : Given [] s ↔ s = {} := by
  constructor
  · rintro ⟨hdir, hname, hextension, hentry, hpolicy, hlimit⟩
    cases s
    cases Option.some.inj hdir
    cases Option.some.inj hname
    cases Option.some.inj hextension
    cases Option.some.inj hentry
    cases Option.some.inj hpolicy
    cases Option.some.inj hlimit
    rfl
  · rintro rfl
    exact ⟨rfl, rfl, rfl, rfl, rfl, rfl⟩

theorem gives : Gives ofYaml names Given {} where
  eq_ok_iff := ofYaml_eq_ok_iff
  nil_iff _ := given_nil_iff

theorem Given.unique {es : Section} {s s' : EngineSettings} (h : Given es s) (h' : Given es s') :
    s = s' := by
  cases s
  cases s'
  cases Option.some.inj (h.resourceDir.symm.trans h'.resourceDir)
  cases Option.some.inj (h.resourceName.symm.trans h'.resourceName)
  cases Option.some.inj (h.resourceExtension.symm.trans h'.resourceExtension)
  cases Option.some.inj (h.entryPoint.symm.trans h'.entryPoint)
  cases Option.some.inj (h.loadFailure.symm.trans h'.loadFailure)
  cases Option.some.inj (h.memoryLimit.symm.trans h'.memoryLimit)
  rfl

theorem Given.congr {es es' : Section} (h : ∀ name ∈ names, es.lookup name = es'.lookup name)
    {s : EngineSettings} (hs : Given es s) : Given es' s where
  resourceDir := (value?_congr (h _ (by simp [names, checks])) _ _).symm.trans hs.resourceDir
  resourceName := (value?_congr (h _ (by simp [names, checks])) _ _).symm.trans hs.resourceName
  resourceExtension :=
    (value?_congr (h _ (by simp [names, checks])) _ _).symm.trans hs.resourceExtension
  entryPoint := (value?_congr (h _ (by simp [names, checks])) _ _).symm.trans hs.entryPoint
  loadFailure := (value?_congr (h _ (by simp [names, checks])) _ _).symm.trans hs.loadFailure
  memoryLimit := (value?_congr (h _ (by simp [names, checks])) _ _).symm.trans hs.memoryLimit

theorem exists_given_iff {es : Section} : (∃ s, Given es s) ↔ Decodes checks es := by
  simp only [Decodes, checks, List.forall_mem_cons, List.not_mem_nil, false_implies, implies_true,
    and_true]
  constructor
  · rintro ⟨s, hdir, hname, hextension, hentry, hpolicy, hlimit⟩
    exact ⟨exists_value?_iff.mp ⟨_, hdir⟩, exists_value?_iff.mp ⟨_, hname⟩,
      exists_value?_iff.mp ⟨_, hextension⟩, exists_value?_iff.mp ⟨_, hentry⟩,
      exists_value?_iff.mp ⟨_, hpolicy⟩, exists_value?_iff.mp ⟨_, hlimit⟩⟩
  · rintro ⟨hdir, hname, hextension, hentry, hpolicy, hlimit⟩
    obtain ⟨dir, hdir⟩ := exists_value?_iff.mpr hdir
    obtain ⟨name, hname⟩ := exists_value?_iff.mpr hname
    obtain ⟨extension, hextension⟩ := exists_value?_iff.mpr hextension
    obtain ⟨entry, hentry⟩ := exists_value?_iff.mpr hentry
    obtain ⟨policy, hpolicy⟩ := exists_value?_iff.mpr hpolicy
    obtain ⟨limit, hlimit⟩ := exists_value?_iff.mpr hlimit
    exact ⟨⟨dir, name, extension, entry, policy, limit⟩, hdir, hname, hextension, hentry, hpolicy,
      hlimit⟩

end EngineSettings

end LineHighlight
