import LineHighlight.Proofs.Engine.Resources
import LineHighlight.Proofs.Files.Writes

/-! Resources in the files of a directory.
A relative file name is looked for below the root and nowhere else. Plain file names, each of
which is one name in the root, make a directory and an embedded bundle interchangeable. -/

namespace LineHighlight

namespace Files

/-- A file name that is one name in a directory. -/
structure IsPlain (file : String) : Prop where
  no_separator : '/' ∉ file.toList
  no_nul : '\x00' ∉ file.toList
  size_le : file.utf8ByteSize ≤ maxName
  ne_dot : file ≠ "."
  ne_dots : file ≠ ".."

instance (file : String) : Decidable (IsPlain file) :=
  decidable_of_iff
    ('/' ∉ file.toList ∧ '\x00' ∉ file.toList ∧ file.utf8ByteSize ≤ maxName ∧ file ≠ "." ∧
      file ≠ "..")
    ⟨fun ⟨hseparator, hnul, hsize, hdot, hdots⟩ => ⟨hseparator, hnul, hsize, hdot, hdots⟩,
      fun h => ⟨h.no_separator, h.no_nul, h.size_le, h.ne_dot, h.ne_dots⟩⟩

theorem IsPlain.isAbsolute_eq {file : String} (h : IsPlain file) : isAbsolute file = false := by
  cases habsolute : isAbsolute file with
  | false => rfl
  | true =>
      have hhead := (isAbsolute_iff file).mp habsolute
      exact absurd (List.mem_of_head? hhead) h.no_separator

namespace Tree

variable {t t' : Tree} {start start' place place' : Place} {directory file : String}

/-- The text that stands at a place. -/
def content (t : Tree) (place : Place) : Except Fault String :=
  match t.entry? place with
  | none => .error .notFound
  | some .directory => .error .isADirectory
  | some (.file bytes) =>
    match Text.ofUtf8? bytes with
    | some s => .ok s
    | none => .error .notText

theorem readText_eq (t : Tree) (start : Place) (path : String) :
    t.readText start path = (t.resolve start path).bind t.content := rfl

/-- What a relative path below a directory leads to is settled by what is below the
directory. -/
theorem Agrees.readText_join (hagrees : t.Agrees place t' place')
    (h : t.Opens start directory place) (h' : t'.Opens start' directory place') (hfile : file ≠ "")
    (hrelative : isAbsolute file = false) (hup : ".." ∉ parts file) :
    t.readText start (join directory file) = t'.readText start' (join directory file) := by
  obtain ⟨last, hwalk, hwalk'⟩ := hagrees.walk hup []
  rw [List.append_nil] at hwalk hwalk'
  rw [readText_eq, readText_eq, h.resolve_join hfile hrelative, h'.resolve_join hfile hrelative,
    hwalk, hwalk']
  split
  · rfl
  · split
    · rfl
    · cases last with
      | error fault => rfl
      | ok below =>
          show t.content (place ++ below) = t'.content (place' ++ below)
          rw [content, content, hagrees below]

/-- A plain file of a directory is read at its name, if the path is not too long. -/
theorem Opens.readText_join (h : t.Opens start directory place) (hfile : file ≠ "")
    (hplain : IsPlain file) (hsize : (join directory file).utf8ByteSize < maxPath) :
    t.readText start (join directory file) = t.content (place ++ [file]) := by
  rw [readText_eq, h.resolve_join hfile hplain.isAbsolute_eq, if_neg hplain.no_nul,
    if_neg (Nat.not_le.mpr hsize), parts_of_notMem hfile hplain.no_separator, walk_cons,
    step_name hplain.ne_dot hplain.ne_dots hplain.size_le h.entry_eq]
  cases hentry : t.entry? (place ++ [file]) with
  | none => simp [content, hentry, Except.bind]
  | some e => simp [Except.bind]

theorem Opens.locate_join_plain (h : t.Opens start directory place) (hfile : file ≠ "")
    (hplain : IsPlain file) : locate start (join directory file) = place ++ [file] := by
  rw [h.locate_join hfile hplain.isAbsolute_eq, parts_of_notMem hfile hplain.no_separator]
  simp [lexical, hplain.ne_dot, hplain.ne_dots]

end Tree

/-- In a directory whose own path leaves room for a name, no plain file is too far away. -/
theorem utf8ByteSize_join_lt {directory file : String}
    (hroom : (join directory "").utf8ByteSize + maxName < maxPath) (h : IsPlain file) :
    (join directory file).utf8ByteSize < maxPath := by
  have hsize := h.size_le
  rw [join_eq_append directory h.isAbsolute_eq, String.utf8ByteSize_append]
  omega

end Files

namespace DirectoryBundle

open Files

variable {b : DirectoryBundle} {t : Tree} {start place : Place} {rs : List Resource} {r : Resource}

/-- What reading the file of a resource comes to. -/
def loaded (name extension : String) : Except Fault String → Except Error String
  | .ok s => .ok s
  | .error .notFound => .error (.resourceNotFound name extension)
  | .error fault => .error (.io fault.message)

theorem load_eq (b : DirectoryBundle) (t : Tree) (start : Place) (name extension : String) :
    b.load t start name extension =
      loaded name extension (t.readText start (join b.root (fileName name extension))) := by
  unfold load
  cases t.readText start (join b.root (fileName name extension)) with
  | ok s => rfl
  | error fault => cases fault <;> rfl

/-! ## Nothing but what is below the root -/

/-- What the loading of a resource depends on. -/
structure ReachSpec (b : DirectoryBundle) (name extension : String) : Prop where
  /-- A relative file name that does not go up is looked for below the root. -/
  below_root : isAbsolute (fileName name extension) = false → ".." ∉ parts (fileName name extension) →
    ∀ {t t' : Tree} {start start' place place' : Place}, t.Opens start b.root place →
      t'.Opens start' b.root place' → t.Agrees place t' place' →
      b.load t start name extension = b.load t' start' name extension
  /-- An absolute file name is looked for where it says, whatever the root is. -/
  anywhere : isAbsolute (fileName name extension) = true →
    ∀ (t : Tree) (start start' : Place) (root : String),
      b.load t start name extension = (⟨root⟩ : DirectoryBundle).load t start' name extension

theorem reach_spec (b : DirectoryBundle) (name extension : String) :
    ReachSpec b name extension where
  below_root := by
    intro hrelative hup t t' start start' place place' h h' hagrees
    rw [load_eq, load_eq, hagrees.readText_join h h' (fileName_ne_empty _ _) hrelative hup]
  anywhere := by
    intro habsolute t start start' root
    rw [load_eq, load_eq, join_of_isAbsolute habsolute, join_of_isAbsolute habsolute,
      Tree.readText_eq, Tree.readText_eq, Tree.resolve_of_isAbsolute habsolute start start']

/-- A file below the root that an absolute name does not lead to, and one elsewhere that it
does. -/
theorem reach_absolute_name :
    let b : DirectoryBundle := ⟨"/r"⟩
    let t := Tree.writeFile {} ["r", "x", "y.js"] (Text.utf8 "in")
    let t' := t.writeFile ["x", "y.js"] (Text.utf8 "out")
    ".." ∉ parts (fileName "/x/y" "js") ∧ t.Opens [] b.root ["r"] ∧ t'.Opens [] b.root ["r"] ∧
      t.Agrees ["r"] t' ["r"] ∧
      b.load t [] "/x/y" "js" = .error (.resourceNotFound "/x/y" "js") ∧
      b.load t' [] "/x/y" "js" = .ok "out" := by
  refine ⟨by decide +kernel, ⟨by decide +kernel, by decide +kernel⟩,
    ⟨by decide +kernel, by decide +kernel⟩, ?_, by rfl, by rfl⟩
  intro below
  exact (Tree.entry?_writeFile_of_not_prefix (by simp) (by simp) _ _).symm

/-! ## Files written one after another -/

/-- Writes a resource to its file. -/
def write (b : DirectoryBundle) (start : Place) (t : Tree) (r : Resource) : Tree :=
  t.writeFile (Tree.locate start (join b.root r.file)) (Text.utf8 r.source)

def writing (b : DirectoryBundle) (start : Place) (t : Tree) (rs : List Resource) : Tree :=
  rs.foldl (b.write start) t

/-- The root is there and holds the sources of resources, each under its file name. -/
structure Holds (b : DirectoryBundle) (start place : Place) (rs : List Resource) (t : Tree) :
    Prop where
  opens : t.Opens start b.root place
  entry_eq : ∀ file, t.entry? (place ++ [file]) =
    (Resource.stored rs file).map fun s => .file (Text.utf8 s)

/-- One more resource overwrites what its file name stood for. -/
theorem Holds.write (h : b.Holds start place rs t) (hplain : IsPlain r.file) :
    b.Holds start place (rs ++ [r]) (b.write start t r) := by
  have hplace : Tree.locate start (join b.root r.file) = place ++ [r.file] :=
    h.opens.locate_join_plain (fileName_ne_empty _ _) hplain
  have hfile : t.entry? (place ++ [r.file]) ≠ some .directory := by
    rw [h.entry_eq]
    cases Resource.stored rs r.file <;> simp
  rw [DirectoryBundle.write, hplace]
  exact
    { opens := (Tree.keeps_writeFile (by simp) hfile _).opens h.opens
      entry_eq := by
        intro file
        rw [Tree.entry?_writeFile, Resource.stored_concat, h.entry_eq]
        by_cases hsame : file = r.file
        · simp [hsame]
        · simp [hsame, Ne.symm hsame] }

theorem Holds.writing (h : b.Holds start place [] t) (hrs : ∀ r ∈ rs, IsPlain r.file) :
    b.Holds start place rs (b.writing start t rs) := by
  induction rs using List.reverseRecOn with
  | nil => exact h
  | append_singleton rs r ih =>
      have hbefore := ih fun q hq => hrs q (List.mem_append_left _ hq)
      rw [DirectoryBundle.writing, List.foldl_append]
      exact hbefore.write (hrs r (by simp))

theorem Holds.load {name extension : String} (h : b.Holds start place rs t)
    (hroom : (join b.root "").utf8ByteSize + maxName < maxPath)
    (hplain : IsPlain (fileName name extension)) :
    b.load t start name extension =
      Resource.found name extension (Resource.stored rs (fileName name extension)) := by
  rw [load_eq, h.opens.readText_join (fileName_ne_empty _ _) hplain
    (utf8ByteSize_join_lt hroom hplain), Tree.content, h.entry_eq]
  cases Resource.stored rs (fileName name extension) with
  | none => rfl
  | some s => simp [loaded, Resource.found]

/-- Additions to an embedded bundle and writes to an empty directory, the same ones in the same
order, give the same answers: what was last stored under the file name, or that there is no
such resource. -/
theorem load_writing (hopens : t.Opens start b.root place)
    (hempty : ∀ file, t.entry? (place ++ [file]) = none)
    (hroom : (join b.root "").utf8ByteSize + maxName < maxPath)
    (hrs : ∀ r ∈ rs, IsPlain r.file) (name extension : String)
    (hplain : IsPlain (fileName name extension)) :
    b.load (b.writing start t rs) start name extension =
        (EmbeddedBundle.holding rs).load name extension ∧
      (EmbeddedBundle.holding rs).load name extension =
        Resource.found name extension (Resource.stored rs (fileName name extension)) := by
  have hholds : b.Holds start place [] t := ⟨hopens, fun file => by simp [hempty]⟩
  have hembedded := EmbeddedBundle.load_holding rs name extension
  exact ⟨((hholds.writing hrs).load hroom hplain).trans hembedded.symm, hembedded⟩

/-- A resource whose file another one with another name and another extension has overwritten. -/
theorem load_writing_overwritten :
    let b : DirectoryBundle := ⟨"/srv"⟩
    let t := Tree.makeDirectory {} ["srv"]
    let rs : List Resource :=
      [⟨"highlight.min", "js", "a"⟩, ⟨"highlight", "css", "b"⟩, ⟨"highlight", "min.js", "c"⟩]
    b.load (b.writing [] t rs) [] "highlight.min" "js" = .ok "c" := by
  intro b t rs
  have hopens : t.Opens [] b.root ["srv"] := ⟨by decide +kernel, by decide +kernel⟩
  have hplain : ∀ r ∈ rs, IsPlain r.file := by decide +kernel
  obtain ⟨hsame, hfound⟩ := load_writing hopens (fun _ => rfl) (by decide +kernel) hplain
    "highlight.min" "js" (by decide +kernel)
  exact hsame.trans hfound

end DirectoryBundle

end LineHighlight
