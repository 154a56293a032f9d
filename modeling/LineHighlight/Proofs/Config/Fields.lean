import LineHighlight.Proofs.Config.Checks
import LineHighlight.Proofs.Config.Settings

/-! The configuration in a document, field by field.
Each field is the decoded value of its key or the default, and a document is accepted if these
make up a configuration that passes the checks. So the order of the entries is of no
importance, and neither is what stands under keys that are not known. -/

namespace LineHighlight

open Yaml

namespace Config

/-! ## Documents -/

/-- The known keys at the root. -/
def parts : List String :=
  ["server", "engine"]

/-- The known keys under a key at the root. -/
def fieldsUnder : String → List String
  | "server" => ServerSettings.names
  | "engine" => EngineSettings.names
  | _ => []

/-- The known keys at the root have mappings under them, and no known key comes twice. -/
structure WellLaid (o : Outline) : Prop where
  once : Once parts o
  mappings : ∀ name ∈ parts, ∀ v, (name, v) ∈ o →
    ∃ es, v = .mapping es ∧ Once (fieldsUnder name) es

/-- The configuration that the entries of a document say. -/
structure Given (o : Outline) (c : Config) : Prop where
  server : c.server.Given (under o "server")
  engine : c.engine.Given (under o "engine")

theorem Given.unique {o : Outline} {c c' : Config} (h : Given o c) (h' : Given o c') : c = c' := by
  cases c
  cases c'
  cases h.server.unique h'.server
  cases h.engine.unique h'.engine
  rfl

theorem exists_given_iff {o : Outline} :
    (∃ c, Given o c) ↔ Decodes ServerSettings.checks (under o "server") ∧
      Decodes EngineSettings.checks (under o "engine") := by
  rw [← ServerSettings.exists_given_iff, ← EngineSettings.exists_given_iff]
  constructor
  · rintro ⟨c, hserver, hengine⟩
    exact ⟨⟨_, hserver⟩, ⟨_, hengine⟩⟩
  · rintro ⟨⟨server, hserver⟩, engine, hengine⟩
    exact ⟨⟨server, engine⟩, hserver, hengine⟩

section Decoding

variable {root : Node} {top : List (String × Node)}

/-- What stands under a known key at the root: nothing, or a mapping. -/
theorem WellLaid.under_eq (h : WellLaid (top.map fun e => (e.1, root.part e.2))) {name : String}
    (hname : name ∈ parts) :
    top.lookup name = none ∧ under (top.map fun e => (e.1, root.part e.2)) name = [] ∨
      ∃ n es, top.lookup name = some n ∧ root.entries? n = some es ∧
        Once (fieldsUnder name) es ∧
        under (top.map fun e => (e.1, root.part e.2)) name = root.leaves es := by
  have hlookup := lookup_map root.part top name
  cases hn : top.lookup name with
  | none =>
      rw [hn] at hlookup
      exact .inl ⟨rfl, by rw [under, hlookup]; rfl⟩
  | some n =>
      rw [hn] at hlookup
      obtain ⟨es', hes', honce⟩ := h.mappings name hname _ (mem_of_lookup_eq_some hlookup)
      cases hentries : root.entries? n with
      | none =>
          rw [Node.part, hentries] at hes'
          cases hes'
      | some es =>
          rw [Node.part, hentries] at hes'
          obtain rfl := Part.mapping.inj hes'
          refine .inr ⟨n, es, rfl, hentries, ?_, ?_⟩
          · exact (once_map fun n => (root.follow n).scalar?).mp honce
          · rw [under, hlookup, Option.map_some, Node.part, hentries]

section Part

variable {S : Type} {d : Decoder S} {said : Section → S → Prop} {fallback s : S} {name : String}

theorem WellLaid.field_eq_ok_iff (h : WellLaid (top.map fun e => (e.1, root.part e.2)))
    (hname : name ∈ parts) (hd : Gives d (fieldsUnder name) said fallback) {fields : List Field}
    (hfields : fields.map Field.entry = knownEntries parts top) {path : List String} :
    field ⟨root, path⟩ fields name d fallback = .ok s ↔
      said (under (top.map fun e => (e.1, root.part e.2)) name) s := by
  obtain ⟨called, hfield⟩ := field_eq ⟨root, path⟩ hfields hname d fallback
  rw [hfield]
  rcases h.under_eq hname with ⟨habsent, hnone⟩ | ⟨n, es, hn, hentries, honce, hunder⟩
  · rw [habsent, hnone, hd.nil_iff]
    simp [eq_comm]
  · rw [hn, hunder]
    exact hd.eq_ok_iff hentries honce _ s

theorem WellLaid.checks_of_said (h : WellLaid (top.map fun e => (e.1, root.part e.2)))
    (hname : name ∈ parts) (hd : Gives d (fieldsUnder name) said fallback)
    (hs : said (under (top.map fun e => (e.1, root.part e.2)) name) s) {n : Node}
    (hn : top.lookup name = some n) (path : List String) :
    checks d ⟨root, path⟩ n = .ok () := by
  rcases h.under_eq hname with ⟨habsent, -⟩ | ⟨n', es, hn', hentries, honce, hunder⟩
  · cases hn.symm.trans habsent
  · obtain rfl := Option.some.inj (hn.symm.trans hn')
    rw [hunder] at hs
    rw [checks, (hd.eq_ok_iff hentries honce path s).mpr hs]
    rfl

end Part

theorem ofYaml_eq_ok_iff (htop : root.entries? root = some top)
    (h : WellLaid (top.map fun e => (e.1, root.part e.2))) (c : Config) :
    ofYaml ⟨root, []⟩ root = .ok c ↔ Given (top.map fun e => (e.1, root.part e.2)) c := by
  have honce : Once parts top := (once_map root.part).mp h.once
  have hserver : "server" ∈ parts := by simp [parts]
  have hengine : "engine" ∈ parts := by simp [parts]
  unfold ofYaml
  refine record_eq_ok_iff htop honce (fun fields hfields => ⟨fun hc => ?_, fun hc => ?_⟩)
    fun hc => ?_
  · obtain ⟨server, hs, hc⟩ := bind_eq_ok_iff.mp hc
    obtain ⟨engine, he, hc⟩ := bind_eq_ok_iff.mp hc
    obtain rfl := Except.ok.inj hc
    exact ⟨(h.field_eq_ok_iff hserver ServerSettings.gives hfields).mp hs,
      (h.field_eq_ok_iff hengine EngineSettings.gives hfields).mp he⟩
  · obtain ⟨hs, he⟩ := hc
    refine bind_eq_ok_iff.mpr
      ⟨_, (h.field_eq_ok_iff hserver ServerSettings.gives hfields).mpr hs, ?_⟩
    exact bind_eq_ok_iff.mpr
      ⟨_, (h.field_eq_ok_iff hengine EngineSettings.gives hfields).mpr he, rfl⟩
  · simp only [List.forall_mem_cons, List.not_mem_nil, false_implies, implies_true, and_true]
    exact ⟨fun n hn => h.checks_of_said hserver ServerSettings.gives hc.server hn,
      fun n hn => h.checks_of_said hengine EngineSettings.gives hc.engine hn⟩

end Decoding

/-- A document is decoded to the configuration that its outline says. -/
theorem decode_eq_ok_iff {d : Document} {o : Outline} (ho : d.outline? = some o) (h : WellLaid o)
    {c : Config} : decode d = .ok c ↔ Given o c := by
  obtain ⟨root, hroot, ho⟩ := Option.bind_eq_some_iff.mp ho
  obtain ⟨top, htop, rfl⟩ := Option.map_eq_some_iff.mp ho
  rw [decode, hroot]
  exact ofYaml_eq_ok_iff htop h c

/-! ## Order and unknown keys -/

/-- Outlines of which one is had from the other by changes to the order of entries and to
entries under unknown keys, in any of the mappings. -/
inductive Rearranged : Outline → Outline → Prop
  | atRoot {o o' : Outline} (h : SameKnown parts o o') : Rearranged o o'
  | inside {before after : Outline} {name : String} {es es' : Section}
      (h : SameKnown (fieldsUnder name) es es') :
      Rearranged (before ++ (name, .mapping es) :: after) (before ++ (name, .mapping es') :: after)
  | trans {o o' o'' : Outline} (h : Rearranged o o') (h' : Rearranged o' o'') : Rearranged o o''

/-- Under every known key the same is found. -/
def SameFields (o o' : Outline) : Prop :=
  ∀ name ∈ parts, ∀ key ∈ fieldsUnder name,
    (under o name).lookup key = (under o' name).lookup key

theorem Given.congr {o o' : Outline} (h : SameFields o o') {c : Config} (hc : Given o c) :
    Given o' c where
  server := hc.server.congr (h "server" (by simp [parts]))
  engine := hc.engine.congr (h "engine" (by simp [parts]))

theorem WellLaid.atRoot {o o' : Outline} (h : WellLaid o) (hsame : SameKnown parts o o') :
    WellLaid o' ∧ SameFields o o' := by
  refine ⟨⟨hsame.once h.once, ?_⟩, ?_⟩
  · intro name hname v hv
    apply h.mappings name hname
    rw [← mem_knownEntries hname, hsame.mem_iff, mem_knownEntries hname]
    exact hv
  · intro name hname key _
    rw [under, under, hsame.lookup_eq h.once hname]

theorem WellLaid.inside {before after : Outline} {name : String} {es es' : Section}
    (h : WellLaid (before ++ (name, .mapping es) :: after))
    (hsame : SameKnown (fieldsUnder name) es es') :
    WellLaid (before ++ (name, .mapping es') :: after) ∧
      SameFields (before ++ (name, .mapping es) :: after)
        (before ++ (name, .mapping es') :: after) := by
  refine ⟨⟨?_, ?_⟩, ?_⟩
  · have honce := h.once
    simpa [Once] using honce
  · intro other hother v hv
    rcases List.mem_append.mp hv with hv | hv
    · exact h.mappings other hother v (List.mem_append_left _ hv)
    rcases List.mem_cons.mp hv with heq | hv
    · obtain ⟨rfl, rfl⟩ := Prod.mk.inj heq
      obtain ⟨_, hes, honce⟩ := h.mappings other hother (.mapping es) (by simp)
      obtain rfl := Part.mapping.inj hes
      exact ⟨es', rfl, hsame.once honce⟩
    · exact h.mappings other hother v (by simp [hv])
  · intro other hother key hkey
    simp only [under, List.lookup_append, List.lookup_cons]
    cases before.lookup other with
    | some v => rfl
    | none =>
        cases heq : other == name with
        | false => rfl
        | true =>
            obtain rfl := beq_iff_eq.mp heq
            obtain ⟨_, hes, honce⟩ := h.mappings other hother (.mapping es) (by simp)
            obtain rfl := Part.mapping.inj hes
            exact hsame.lookup_eq honce hkey

theorem Rearranged.sameFields {o o' : Outline} (h : Rearranged o o') (ho : WellLaid o) :
    WellLaid o' ∧ SameFields o o' := by
  induction h with
  | atRoot h => exact ho.atRoot h
  | inside h => exact ho.inside h
  | trans _ _ ih ih' =>
      obtain ⟨hmid, hsame⟩ := ih ho
      obtain ⟨hlast, hsame'⟩ := ih' hmid
      refine ⟨hlast, ?_⟩
      intro name hname key hkey
      exact (hsame name hname key hkey).trans (hsame' name hname key hkey)

/-- What is read from a text whose document has the outline. -/
structure FieldsSpec (text : String) (o : Outline) : Prop where
  accepted_iff : ∀ c, parse text = .ok c ↔ Given o c ∧ c.Usable
  accepts_iff : (∃ c, parse text = .ok c) ↔
    (Decodes ServerSettings.checks (under o "server") ∧
      Decodes EngineSettings.checks (under o "engine")) ∧ ∀ c, Given o c → c.Usable
  /-- The first of the checks that fail. -/
  refused : ∀ c complaint, Given o c → c.complaints.head? = some complaint →
    parse text = .error (.config complaint)
  refused_config : ∀ e, parse text = .error e → ∃ reason, e = .config reason
  rearranged : ∀ d' o', d'.outline? = some o' → Rearranged o o' →
    ∀ c, ofDocument d' = .ok c ↔ parse text = .ok c

theorem fields_spec {text : String} {d : Document} {o : Outline}
    (hread : Document.read? text = some d) (ho : d.outline? = some o) (h : WellLaid o) :
    FieldsSpec text o := by
  have haccepted : ∀ c, parse text = .ok c ↔ Given o c ∧ c.Usable := by
    intro c
    rw [parse_of_read? hread, ofDocument_eq_ok_iff, decode_eq_ok_iff ho h]
  refine ⟨haccepted, ?_, ?_, ?_, ?_⟩
  · rw [← exists_given_iff]
    constructor
    · rintro ⟨c, hc⟩
      obtain ⟨hgiven, husable⟩ := (haccepted c).mp hc
      refine ⟨⟨c, hgiven⟩, fun c' hc' => ?_⟩
      rw [hc'.unique hgiven]
      exact husable
    · rintro ⟨⟨c, hgiven⟩, husable⟩
      exact ⟨c, (haccepted c).mpr ⟨hgiven, husable c hgiven⟩⟩
  · intro c complaint hgiven hfirst
    rw [parse_of_read? hread]
    exact ofDocument_eq_error ((decode_eq_ok_iff ho h).mpr hgiven) hfirst
  · intro e he
    rw [parse_of_read? hread] at he
    exact ofDocument_config he
  · intro d' o' ho' hrearranged c
    obtain ⟨h', hsame⟩ := hrearranged.sameFields h
    rw [haccepted, ofDocument_eq_ok_iff, decode_eq_ok_iff ho' h']
    have hback : SameFields o' o := fun name hname key hkey => (hsame name hname key hkey).symm
    exact and_congr_left' ⟨fun hc => hc.congr hback, fun hc => hc.congr hsame⟩

/-- A reference, entries in an order of their own and keys that are not known. -/
theorem fields_spec_reference :
    let text :=
      "a: &t 250\nengine: {entry_point: hljs, z: [1, *t]}\nserver: {request_timeout_ms: *t}"
    ∃ d o, Document.read? text = some d ∧ d.outline? = some o ∧ WellLaid o ∧ FieldsSpec text o ∧
      parse text = .ok { server := { requestTimeout := 250 } } := by
  intro text
  have houtline : (Document.read? text).bind Document.outline? = some
      [("a", .other),
        ("engine", .mapping [("entry_point", some ⟨none, "hljs", .plain⟩), ("z", none)]),
        ("server", .mapping [("request_timeout_ms", some ⟨none, "250", .plain⟩)])] := by
    decide +kernel
  obtain ⟨d, hread, ho⟩ := Option.bind_eq_some_iff.mp houtline
  have hlaid : WellLaid
      [("a", .other),
        ("engine", .mapping [("entry_point", some ⟨none, "hljs", .plain⟩), ("z", none)]),
        ("server", .mapping [("request_timeout_ms", some ⟨none, "250", .plain⟩)])] := by
    refine ⟨by simp [Once, parts], ?_⟩
    intro name hname v hv
    simp only [parts, List.mem_cons, List.not_mem_nil, or_false] at hname
    rcases hname with rfl | rfl
    · simp at hv
      exact ⟨_, hv, by simp [Once, fieldsUnder, ServerSettings.names, ServerSettings.checks]⟩
    · simp at hv
      exact ⟨_, hv, by simp [Once, fieldsUnder, EngineSettings.names, EngineSettings.checks]⟩
  exact ⟨d, _, hread, ho, hlaid, fields_spec hread ho hlaid, by decide +kernel⟩

end Config

end LineHighlight
