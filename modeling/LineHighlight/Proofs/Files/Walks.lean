import LineHighlight.Proofs.Decode.Steps
import LineHighlight.Proofs.Files.Paths

/-! Walks through a tree of files.
A joined path is walked from where its directory leads. A walk that never goes up sees nothing
but what is below the place where it starts. -/

namespace LineHighlight.Files

/-- Where the walk of a path starts. -/
def origin (start : Place) (path : String) : Place :=
  if path.toList.head? == some '/' then [] else start

theorem origin_join (start : Place) (directory : String) {file : String}
    (h : isAbsolute file = false) : origin start (join directory file) = origin start directory := by
  by_cases hempty : directory = ""
  · have hhead : file.toList.head? ≠ some '/' := by
      intro hslash
      rw [(isAbsolute_iff file).mpr hslash] at h
      cases h
    simp [origin, join, hempty, hhead]
  · rw [origin, origin, head?_join hempty h]

namespace Tree

variable {t t' : Tree} {start here place : Place} {directory file : String}

@[simp] theorem entry?_nil (t : Tree) : t.entry? [] = some .directory := by
  simp [Tree.entry?]

@[simp] theorem walk_nil (t : Tree) (here : Place) : t.walk here [] = .ok here := rfl

theorem walk_cons (t : Tree) (here : Place) (name : String) (names : List String) :
    t.walk here (name :: names) = (t.step here name).bind fun next => t.walk next names := rfl

theorem walk_cons_eq_ok_iff {name : String} {names : List String} :
    t.walk here (name :: names) = .ok place ↔
      ∃ next, t.step here name = .ok next ∧ t.walk next names = .ok place :=
  bind_eq_ok_iff

theorem walk_append (t : Tree) (here : Place) (front back : List String) :
    t.walk here (front ++ back) = t.walk here front >>= fun next => t.walk next back := by
  simp only [walk, List.foldlM_append]

theorem step_dot (t : Tree) (here : Place) :
    t.step here "." =
      if t.entry? here = some .directory then .ok here else .error .notADirectory := by
  by_cases h : t.entry? here = some .directory <;> simp [step, h]

theorem step_name {name : String} (hdot : name ≠ ".") (hdots : name ≠ "..")
    (hsize : name.utf8ByteSize ≤ maxName) (h : t.entry? here = some .directory) :
    t.step here name =
      if (t.entry? (here ++ [name])).isSome then .ok (here ++ [name]) else .error .notFound := by
  have hfits : ¬ maxName < name.utf8ByteSize := Nat.not_lt.mpr hsize
  simp [step, h, hdot, hdots, hfits]

/-- All that a step can do when it succeeds. -/
theorem step_eq_ok_iff {name : String} : t.step here name = .ok place ↔
    t.entry? here = some .directory ∧
      ((name = "." ∧ here = place) ∨ (name = ".." ∧ here.dropLast = place) ∨
        (name ≠ "." ∧ name ≠ ".." ∧ name.utf8ByteSize ≤ maxName ∧
          (t.entry? (here ++ [name])).isSome ∧ here ++ [name] = place)) := by
  by_cases hdirectory : t.entry? here = some .directory
  · by_cases hdot : name = "."
    · simp [step, hdirectory, hdot]
    · by_cases hdots : name = ".."
      · simp [step, hdirectory, hdots]
      · by_cases hsize : name.utf8ByteSize ≤ maxName
        · rw [step_name hdot hdots hsize hdirectory]
          by_cases hsome : (t.entry? (here ++ [name])).isSome <;>
            simp [hdirectory, hdot, hdots, hsize, hsome]
        · simp [step, hdirectory, hdot, hdots, hsize, Nat.not_le.mp hsize]
  · simp [step, hdirectory]

/-! ## Directories -/

/-- A path leads to a directory. The empty path stands for the working directory. -/
structure Opens (t : Tree) (start : Place) (directory : String) (place : Place) : Prop where
  resolve_eq : t.resolve start (if directory = "" then "." else directory) = .ok place
  entry_eq : t.entry? place = some .directory

/-- What a path that leads to a place is like. -/
theorem resolve_eq_ok_iff {path : String} : t.resolve start path = .ok place ↔
    '\x00' ∉ path.toList ∧ path.utf8ByteSize < maxPath ∧ path ≠ "" ∧
      t.walk (origin start path) (parts path) = .ok place := by
  by_cases hnul : '\x00' ∈ path.toList
  · simp [resolve, hnul]
  · by_cases hsize : maxPath ≤ path.utf8ByteSize
    · simp [resolve, hnul, hsize, Nat.not_lt.mpr hsize]
    · by_cases hempty : path = ""
      · simp [resolve, hempty, maxPath]
      · simp [resolve, hnul, hsize, hempty, Nat.not_le.mp hsize, origin]

/-- An absolute path leads to one place, whatever the working directory is. -/
theorem resolve_of_isAbsolute {path : String} (h : isAbsolute path = true)
    (start start' : Place) : t.resolve start path = t.resolve start' path := by
  simp [resolve, (isAbsolute_iff path).mp h]

theorem Opens.not_mem_nul (h : t.Opens start directory place) : '\x00' ∉ directory.toList := by
  by_cases hempty : directory = ""
  · simp [hempty]
  · have hresolve := h.resolve_eq
    rw [if_neg hempty] at hresolve
    exact (resolve_eq_ok_iff.mp hresolve).1

/-- A walk that ends with a dot leads where it led before. -/
theorem walk_of_walk_dot {names : List String} (h : t.walk here (names ++ ["."]) = .ok place) :
    t.walk here names = .ok place := by
  rw [walk_append] at h
  obtain ⟨next, hnames, hdot⟩ := bind_eq_ok_iff.mp h
  obtain ⟨last, hstep, hlast⟩ := walk_cons_eq_ok_iff.mp hdot
  rw [step_dot] at hstep
  split at hstep
  · cases hstep
    rw [hnames]
    exact hlast
  · cases hstep

/-- The names of a directory lead to it. A separator at the end makes no difference. -/
theorem Opens.walk_pieces (h : t.Opens start directory place) :
    t.walk (origin start directory) (pieces directory.toList) = .ok place := by
  obtain ⟨-, -, -, hwalk⟩ := resolve_eq_ok_iff.mp h.resolve_eq
  by_cases hempty : directory = ""
  · subst hempty
    have hdot : t.walk start ([] ++ ["."]) = .ok place := hwalk
    exact walk_of_walk_dot hdot
  · rw [if_neg hempty, parts_eq] at hwalk
    split at hwalk
    · exact walk_of_walk_dot hwalk
    · simpa using hwalk

/-- A file is looked for from the place of its directory. -/
theorem Opens.resolve_join (h : t.Opens start directory place) (hfile : file ≠ "")
    (hrelative : isAbsolute file = false) :
    t.resolve start (join directory file) =
      if '\x00' ∈ file.toList then .error .nulInName
      else if maxPath ≤ (join directory file).utf8ByteSize then .error .nameTooLong
      else t.walk place (parts file) := by
  have hnul : '\x00' ∈ (join directory file).toList ↔ '\x00' ∈ file.toList := by
    obtain ⟨-, hjoin⟩ | ⟨above, habove, hjoin⟩ | ⟨-, -, hjoin⟩ := join_cases directory hrelative
    · rw [hjoin]
    · have hdirectory := h.not_mem_nul
      rw [habove] at hdirectory
      simp only [List.mem_append, not_or] at hdirectory
      simp [hjoin, hdirectory.1]
    · simp [hjoin, h.not_mem_nul]
  have hne : join directory file ≠ "" := by
    rw [join_eq_append directory hrelative]
    simp [hfile]
  have hwalk : t.walk (origin start (join directory file)) (parts (join directory file)) =
      t.walk place (parts file) := by
    rw [origin_join start directory hrelative, parts_join directory hfile hrelative, walk_append,
      h.walk_pieces]
    rfl
  simp only [resolve, List.contains_iff_mem, hnul, hne, if_false]
  split
  · rfl
  · split
    · rfl
    · exact hwalk

/-! ## Names alone -/

/-- Where a name leads from a place if it leads anywhere. -/
def lexical (here : Place) (name : String) : Place :=
  if name = "." then here else if name = ".." then here.dropLast else here ++ [name]

theorem step_eq_lexical {name : String} (h : t.step here name = .ok place) :
    lexical here name = place := by
  obtain ⟨-, ⟨rfl, rfl⟩ | ⟨rfl, rfl⟩ | ⟨hdot, hdots, -, -, rfl⟩⟩ := step_eq_ok_iff.mp h
  · rfl
  · rfl
  · simp [lexical, hdot, hdots]

theorem walk_eq_lexical {names : List String} (h : t.walk here names = .ok place) :
    names.foldl lexical here = place := by
  induction names generalizing here with
  | nil => exact Except.ok.inj h
  | cons name names ih =>
      obtain ⟨next, hstep, hrest⟩ := walk_cons_eq_ok_iff.mp h
      rw [List.foldl_cons, step_eq_lexical hstep]
      exact ih hrest

/-- The names of a file in a directory lead from the place of the directory. -/
theorem Opens.locate_join (h : t.Opens start directory place) (hfile : file ≠ "")
    (hrelative : isAbsolute file = false) :
    locate start (join directory file) = (parts file).foldl lexical place := by
  show (parts (join directory file)).foldl lexical (origin start (join directory file)) = _
  rw [origin_join start directory hrelative, parts_join directory hfile hrelative,
    List.foldl_append, walk_eq_lexical h.walk_pieces]

/-! ## Trees that hold more -/

/-- A tree has everything that another one has, and the same directories; a file may have
changed. -/
structure Keeps (t t' : Tree) : Prop where
  directory : ∀ {p}, t.entry? p = some .directory → t'.entry? p = some .directory
  isSome : ∀ {p}, (t.entry? p).isSome → (t'.entry? p).isSome

theorem Keeps.step (hkeeps : t.Keeps t') {name : String} (h : t.step here name = .ok place) :
    t'.step here name = .ok place := by
  obtain ⟨hdirectory, hleads⟩ := step_eq_ok_iff.mp h
  refine step_eq_ok_iff.mpr ⟨hkeeps.directory hdirectory, ?_⟩
  obtain hdot | hdots | ⟨hdot, hdots, hsize, hsome, hplace⟩ := hleads
  · exact .inl hdot
  · exact .inr (.inl hdots)
  · exact .inr (.inr ⟨hdot, hdots, hsize, hkeeps.isSome hsome, hplace⟩)

theorem Keeps.walk (hkeeps : t.Keeps t') {names : List String}
    (h : t.walk here names = .ok place) : t'.walk here names = .ok place := by
  induction names generalizing here with
  | nil => exact h
  | cons name names ih =>
      obtain ⟨next, hstep, hrest⟩ := walk_cons_eq_ok_iff.mp h
      exact walk_cons_eq_ok_iff.mpr ⟨next, hkeeps.step hstep, ih hrest⟩

theorem Keeps.opens (hkeeps : t.Keeps t') (h : t.Opens start directory place) :
    t'.Opens start directory place where
  resolve_eq := by
    obtain ⟨hnul, hsize, hempty, hwalk⟩ := resolve_eq_ok_iff.mp h.resolve_eq
    exact resolve_eq_ok_iff.mpr ⟨hnul, hsize, hempty, hkeeps.walk hwalk⟩
  entry_eq := hkeeps.directory h.entry_eq

/-! ## Places below a place -/

/-- What two trees hold at and below a place of each is the same. -/
def Agrees (t : Tree) (place : Place) (t' : Tree) (place' : Place) : Prop :=
  ∀ below, t.entry? (place ++ below) = t'.entry? (place' ++ below)

variable {place' : Place}

/-- A step that does not go up comes to the same in both trees. -/
theorem Agrees.step (h : t.Agrees place t' place') {name : String} (hname : name ≠ "..")
    (below : Place) :
    ∃ next : Except Fault Place, t.step (place ++ below) name = next.map (place ++ ·) ∧
      t'.step (place' ++ below) name = next.map (place' ++ ·) := by
  have hhere : t'.entry? (place' ++ below) = t.entry? (place ++ below) := (h below).symm
  have hthere : t'.entry? (place' ++ (below ++ [name])) = t.entry? (place ++ (below ++ [name])) :=
    (h _).symm
  -- Both steps come to this, each from its own place.
  refine ⟨if t.entry? (place ++ below) ≠ some .directory then .error .notADirectory
    else if name = "." then .ok below
    else if maxName < name.utf8ByteSize then .error .nameTooLong
    else if (t.entry? (place ++ (below ++ [name]))).isSome then .ok (below ++ [name])
    else .error .notFound, ?_, ?_⟩
  · simp only [Tree.step, hname, if_false, List.append_assoc, apply_ite (Except.map (place ++ ·))]
    rfl
  · simp only [Tree.step, hhere, hthere, hname, if_false, List.append_assoc,
      apply_ite (Except.map (place' ++ ·))]
    rfl

/-- A walk that never goes up comes to the same in both trees. -/
theorem Agrees.walk (h : t.Agrees place t' place') {names : List String} (hnames : ".." ∉ names)
    (below : Place) :
    ∃ last : Except Fault Place, t.walk (place ++ below) names = last.map (place ++ ·) ∧
      t'.walk (place' ++ below) names = last.map (place' ++ ·) := by
  induction names generalizing below with
  | nil => exact ⟨.ok below, rfl, rfl⟩
  | cons name names ih =>
      rw [List.mem_cons, not_or] at hnames
      obtain ⟨next, hstep, hstep'⟩ := h.step (Ne.symm hnames.1) below
      rw [walk_cons, walk_cons, hstep, hstep']
      cases next with
      | error fault => exact ⟨.error fault, rfl, rfl⟩
      | ok below => exact ih hnames.2 below

end Tree

end LineHighlight.Files
