import LineHighlight.Engine.Bundle
import Mathlib.Data.List.Induction

/-! Resources by their file names.
An embedded bundle knows a resource by nothing but its file name, so an addition is seen under
that name and nowhere else. Two resources share a file name iff a part of it can be counted to
the name of the one and to the extension of the other. -/

namespace LineHighlight

namespace Files

@[simp] theorem toList_fileName (name extension : String) :
    (fileName name extension).toList = name.toList ++ '.' :: extension.toList := by
  simp [fileName]

theorem fileName_ne_empty (name extension : String) : fileName name extension ≠ "" := by
  intro h
  have htoList := congrArg String.toList h
  simp at htoList

/-- If a file name is read in two ways, one name goes on where the other one ends. -/
theorem fileName_of_append {n e n' e' : String} {middle : List Char}
    (hname : n'.toList = n.toList ++ middle)
    (hextension : '.' :: e.toList = middle ++ '.' :: e'.toList) :
    (n = n' ∧ e = e') ∨ ∃ m, n' = fileName n m ∧ e = fileName m e' := by
  cases middle with
  | nil =>
      simp only [List.append_nil, List.nil_append, List.cons.injEq, true_and] at hname hextension
      exact .inl ⟨(String.toList_inj.mp hname).symm, String.toList_inj.mp hextension⟩
  | cons c cs =>
      rw [List.cons_append, List.cons.injEq] at hextension
      obtain ⟨rfl, hcs⟩ := hextension
      refine .inr ⟨String.ofList cs, ?_, ?_⟩ <;> apply String.toList_inj.mp <;> simp [hname, hcs]

/-- The ways in which a file name can be that of two resources. -/
theorem fileName_eq_iff {n e n' e' : String} : fileName n e = fileName n' e' ↔
    (n = n' ∧ e = e') ∨ (∃ m, n' = fileName n m ∧ e = fileName m e') ∨
      ∃ m, n = fileName n' m ∧ e' = fileName m e := by
  constructor
  · intro h
    have htoList := congrArg String.toList h
    rw [toList_fileName, toList_fileName, List.append_eq_append_iff] at htoList
    obtain ⟨middle, hname, hextension⟩ | ⟨middle, hname, hextension⟩ := htoList
    · obtain hsame | hmoved := fileName_of_append hname hextension
      · exact .inl hsame
      · exact .inr (.inl hmoved)
    · obtain ⟨rfl, rfl⟩ | hmoved := fileName_of_append hname hextension
      · exact .inl ⟨rfl, rfl⟩
      · exact .inr (.inr hmoved)
  · rintro (⟨rfl, rfl⟩ | ⟨m, rfl, rfl⟩ | ⟨m, rfl, rfl⟩)
    · rfl
    · simp [fileName, String.append_assoc]
    · simp [fileName, String.append_assoc]

/-- Where no extension holds a dot a file name is that of one resource. -/
theorem fileName_inj {n e n' e' : String} (he : '.' ∉ e.toList) (he' : '.' ∉ e'.toList) :
    fileName n e = fileName n' e' ↔ n = n' ∧ e = e' := by
  rw [fileName_eq_iff]
  constructor
  · rintro (hsame | ⟨m, -, rfl⟩ | ⟨m, -, rfl⟩)
    · exact hsame
    · simp at he
    · simp at he'
  · exact .inl

end Files

/-- A resource that is added to a bundle. -/
structure Resource where
  name : String
  extension : String
  source : String
deriving DecidableEq, Repr

namespace Resource

def file (r : Resource) : String :=
  Files.fileName r.name r.extension

/-- The source that was last stored under a file name. -/
def stored (rs : List Resource) (file : String) : Option String :=
  ((rs.filter fun r => r.file = file).getLast?).map source

@[simp] theorem stored_nil (file : String) : stored [] file = none := rfl

theorem stored_concat (rs : List Resource) (r : Resource) (file : String) :
    stored (rs ++ [r]) file = if r.file = file then some r.source else stored rs file := by
  by_cases h : r.file = file <;> simp [stored, h]

/-- What looking for a resource comes to. -/
def found (name extension : String) : Option String → Except Error String
  | some source => .ok source
  | none => .error (.resourceNotFound name extension)

end Resource

namespace EmbeddedBundle

/-- The bundle to which resources have been added, one after another. -/
def holding (rs : List Resource) : EmbeddedBundle :=
  rs.foldl (fun b r => b.add r.name r.extension r.source) {}

theorem holding_concat (rs : List Resource) (r : Resource) :
    holding (rs ++ [r]) = (holding rs).add r.name r.extension r.source := by
  simp [holding]

/-- The file names under which a bundle holds sources. -/
def files (b : EmbeddedBundle) : List String :=
  b.entries.map Prod.fst

def source? (b : EmbeddedBundle) (file : String) : Option String :=
  (b.entries.find? fun p => p.1 == file).map Prod.snd

theorem load_eq (b : EmbeddedBundle) (name extension : String) :
    b.load name extension =
      Resource.found name extension (b.source? (Files.fileName name extension)) := by
  unfold load source?
  split <;> rename_i h <;> simp [h, Resource.found]

/-! ## One addition -/

theorem find?_set (key source file : String) (entries : List (String × String)) :
    ((set key source entries).find? fun p => p.1 == file).map Prod.snd =
      if key = file then some source else (entries.find? fun p => p.1 == file).map Prod.snd := by
  induction entries with
  | nil => by_cases h : key = file <;> simp [set, h]
  | cons p rest ih =>
      obtain ⟨k, s⟩ := p
      by_cases hkey : k = key
      · subst hkey
        by_cases hfile : k = file <;> simp [set, hfile]
      · by_cases hfile : k = file
        · subst hfile
          simp [set, hkey, Ne.symm hkey]
        · simp [set, hkey, hfile, ih]

theorem map_fst_set (key source : String) (entries : List (String × String)) :
    (set key source entries).map Prod.fst =
      if key ∈ entries.map Prod.fst then entries.map Prod.fst
      else entries.map Prod.fst ++ [key] := by
  induction entries with
  | nil => simp [set]
  | cons p rest ih =>
      obtain ⟨k, s⟩ := p
      by_cases hkey : k = key
      · simp [set, hkey]
      · by_cases hmem : key ∈ rest.map Prod.fst <;> simp [set, hkey, Ne.symm hkey, ih, hmem]

variable (b : EmbeddedBundle) (r : Resource)

theorem source?_add (file : String) :
    (b.add r.name r.extension r.source).source? file =
      if r.file = file then some r.source else b.source? file :=
  find?_set r.file r.source file b.entries

theorem files_add :
    (b.add r.name r.extension r.source).files =
      if r.file ∈ b.files then b.files else b.files ++ [r.file] :=
  map_fst_set r.file r.source b.entries

theorem mem_files_add {file : String} :
    file ∈ (b.add r.name r.extension r.source).files ↔ file ∈ b.files ∨ file = r.file := by
  rw [files_add]
  split
  · rename_i hold
    exact ⟨.inl, fun h => h.elim id fun hfile => hfile ▸ hold⟩
  · rw [List.mem_append, List.mem_singleton]

theorem size_eq : b.size = b.files.length := by
  simp [size, files]

/-- There is one resource more iff the file name is new. -/
theorem size_add :
    (b.add r.name r.extension r.source).size = b.size + if r.file ∈ b.files then 0 else 1 := by
  rw [size_eq, size_eq, files_add]
  by_cases h : r.file ∈ b.files <;> simp [h]

/-! ## Any number of additions -/

/-- A bundle holds what was last stored under each file name. -/
theorem source?_holding (rs : List Resource) (file : String) :
    (holding rs).source? file = Resource.stored rs file := by
  induction rs using List.reverseRecOn with
  | nil => rfl
  | append_singleton rs r ih =>
      rw [holding_concat, source?_add, ih, Resource.stored_concat]

theorem load_holding (rs : List Resource) (name extension : String) :
    (holding rs).load name extension =
      Resource.found name extension (Resource.stored rs (Files.fileName name extension)) := by
  rw [load_eq, source?_holding]

theorem mem_files_holding {rs : List Resource} {file : String} :
    file ∈ (holding rs).files ↔ file ∈ rs.map Resource.file := by
  induction rs using List.reverseRecOn with
  | nil => simp [holding, files]
  | append_singleton rs r ih =>
      rw [holding_concat, mem_files_add, ih]
      simp

/-- What adding a resource to a bundle changes, the bundle having been made by additions. -/
structure AdditionSpec (rs : List Resource) (r : Resource) : Prop where
  /-- Every other file name stands for what it stood for. -/
  load_other : ∀ name extension, Files.fileName name extension ≠ r.file →
    ((holding rs).add r.name r.extension r.source).load name extension =
      (holding rs).load name extension
  load_same : ∀ name extension, Files.fileName name extension = r.file →
    ((holding rs).add r.name r.extension r.source).load name extension = .ok r.source
  size_add : ((holding rs).add r.name r.extension r.source).size =
    (holding rs).size + if r.file ∈ rs.map Resource.file then 0 else 1
  /-- Which names and extensions make up the file name of the resource. -/
  shared_iff : ∀ name extension, Files.fileName name extension = r.file ↔
    (name = r.name ∧ extension = r.extension) ∨
      (∃ m, r.name = Files.fileName name m ∧ extension = Files.fileName m r.extension) ∨
      ∃ m, name = Files.fileName r.name m ∧ r.extension = Files.fileName m extension
  /-- Without dots in extensions, name and extension tell resources apart. -/
  load_pair : '.' ∉ r.extension.toList → ∀ name extension, '.' ∉ extension.toList →
    (name, extension) ≠ (r.name, r.extension) →
    ((holding rs).add r.name r.extension r.source).load name extension =
      (holding rs).load name extension
  size_pair : '.' ∉ r.extension.toList → (∀ q ∈ rs, '.' ∉ q.extension.toList) →
    ((holding rs).add r.name r.extension r.source).size =
      (holding rs).size +
        if (r.name, r.extension) ∈ rs.map (fun q => (q.name, q.extension)) then 0 else 1

theorem addition_spec (rs : List Resource) (r : Resource) : AdditionSpec rs r := by
  have hother : ∀ name extension, Files.fileName name extension ≠ r.file →
      ((holding rs).add r.name r.extension r.source).load name extension =
        (holding rs).load name extension := by
    intro name extension h
    rw [load_eq, load_eq, source?_add, if_neg (Ne.symm h)]
  have hsize : ((holding rs).add r.name r.extension r.source).size =
      (holding rs).size + if r.file ∈ rs.map Resource.file then 0 else 1 := by
    simp only [size_add, mem_files_holding]
  exact
    { load_other := hother
      load_same := by
        intro name extension h
        rw [load_eq, source?_add, if_pos h.symm]
        rfl
      size_add := hsize
      shared_iff := fun _ _ => Files.fileName_eq_iff
      load_pair := by
        intro hr name extension h hne
        apply hother
        intro hfile
        obtain ⟨rfl, rfl⟩ := (Files.fileName_inj h hr).mp hfile
        exact hne rfl
      size_pair := by
        intro hr hrs
        have hmem : r.file ∈ rs.map Resource.file ↔
            (r.name, r.extension) ∈ rs.map (fun q => (q.name, q.extension)) := by
          simp only [List.mem_map]
          refine exists_congr fun q => and_congr_right fun hq => ?_
          rw [Prod.mk.injEq]
          exact Files.fileName_inj (hrs q hq) hr
        simp only [hsize, hmem] }

/-- A resource is hidden by another one that has another name and another extension. -/
theorem addition_shared_name :
    let b := (holding []).add "highlight.min" "js" "a"
    let b' := b.add "highlight" "min.js" "b"
    ("highlight", "min.js") ≠ ("highlight.min", "js") ∧
      b.load "highlight.min" "js" = .ok "a" ∧ b'.load "highlight.min" "js" = .ok "b" ∧
      b'.size = b.size :=
  ⟨by decide, rfl, rfl, rfl⟩

end EmbeddedBundle

end LineHighlight
