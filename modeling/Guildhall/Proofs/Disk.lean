import Guildhall.Proofs.Table
import Guildhall.Store.Disk
import Mathlib.Data.List.Induction

/-!
Files below one directory. The path of a name within a directory is the names of the directory, as
far as they count, with that name at the end (`Disk.normal_join`); so the names within a directory
stand for different places (`Disk.normal_join_inj`), none of which is on the way to the directory
(`Disk.of_mem_ancestors`). What reading, writing and renaming such a file does depends on what is
held under its own name and on whether the directory is there.
-/

set_option autoImplicit false

namespace Guildhall

namespace Disk

/-! ### Names -/

/-- The path of some names. -/
def pathOf (names : List String) : String := "/".intercalate names

/-- No name holds a slash. -/
def SlashFree (names : List String) : Prop := ∀ n ∈ names, '/' ∉ n.toList

theorem notMem_of_mem_splitOn {s part : List Char} (hpart : part ∈ s.splitOn '/') : '/' ∉ part := by
  induction s generalizing part with
  | nil =>
    obtain rfl : part = [] := by simpa using hpart
    simp
  | cons c s ih =>
    rw [List.splitOn_cons_eq_if_modifyHead] at hpart
    split_ifs at hpart with hslash
    · rcases List.mem_cons.mp hpart with rfl | hpart
      · simp
      · exact ih hpart
    · rcases hparts : s.splitOn '/' with _ | ⟨first, rest⟩
      · exact absurd hparts (List.splitOn_ne_nil _ _)
      rw [hparts] at hpart ih
      rcases List.mem_cons.mp hpart with rfl | hpart
      · have hfirst : '/' ∉ first := ih List.mem_cons_self
        simp only [List.mem_cons, not_or]
        exact ⟨fun h ↦ hslash (by simp [← h]), hfirst⟩
      · exact ih (List.mem_cons_of_mem _ hpart)

theorem slashFree_names (path : String) : SlashFree (names path) := by
  intro n hn
  obtain ⟨part, hpart, rfl⟩ := List.mem_map.mp hn
  rw [String.toList_ofList]
  exact notMem_of_mem_splitOn hpart

/-- The names of a path are those that it is made of. -/
theorem names_pathOf {l : List String} (hl : SlashFree l) (hne : l ≠ []) :
    names (pathOf l) = l := by
  have hfree : ∀ n ∈ l.map String.toList, '/' ∉ n := by
    simpa [SlashFree] using hl
  rw [names, pathOf, String.toList_intercalate]
  have hslash : "/".toList = ['/'] := rfl
  rw [hslash, List.splitOn_intercalate _ hfree (by simpa using hne), List.map_map]
  simp [Function.comp_def]

theorem names_of_notMem {name : String} (hname : '/' ∉ name.toList) : names name = [name] := by
  simp [names, List.splitOn_eq_singleton hname]

/-- Names after a slash are further names. -/
theorem names_append_slash (path rest : String) :
    names (path ++ "/" ++ rest) = names path ++ names rest := by
  have hslash : "/".toList = ['/'] := rfl
  simp only [names, String.toList_append, hslash, List.append_assoc, List.singleton_append,
    List.splitOn_append_cons_self, List.map_append]

theorem names_slash (path : String) : names (path ++ "/") = names path ++ [""] := by
  have hnames := names_append_slash path ""
  rwa [String.append_empty, names_of_notMem (by simp : '/' ∉ "".toList)] at hnames

/-! ### Names that count -/

/-- Names none of which is taken back by the next. -/
def IsNormal (l : List String) : Prop :=
  ∀ init n, init ++ [n] <+: l → addName init n = init ++ [n]

theorem isNormal_nil : IsNormal [] := by
  intro init n hbegins
  simp at hbegins

theorem IsNormal.of_beginning {l l' : List String} (hl : IsNormal l) (hbegins : l' <+: l) :
    IsNormal l' :=
  fun init n hinit ↦ hl init n (hinit.trans hbegins)

theorem IsNormal.snoc {l : List String} (hl : IsNormal l) {n : String}
    (hn : addName l n = l ++ [n]) : IsNormal (l ++ [n]) := by
  intro init m hbegins
  rcases List.prefix_concat_iff.mp hbegins with heq | hbegins
  · obtain ⟨rfl, hm⟩ := List.append_inj' heq rfl
    obtain rfl := List.singleton_inj.mp hm
    exact hn
  · exact hl init m hbegins

/-- A name that is more than points. -/
structure IsOrdinary (name : String) : Prop where
  slashFree : '/' ∉ name.toList
  ne_empty : name ≠ ""
  ne_point : name ≠ "."
  ne_points : name ≠ ".."

/-- A longer name without slashes is more than points. -/
theorem isOrdinary_of_length {name : String} (hslash : '/' ∉ name.toList)
    (hlength : 2 < name.length) : IsOrdinary name where
  slashFree := hslash
  ne_empty := by rintro rfl; exact absurd hlength (by decide)
  ne_point := by rintro rfl; exact absurd hlength (by decide)
  ne_points := by rintro rfl; exact absurd hlength (by decide)

theorem IsOrdinary.addName {name : String} (hname : IsOrdinary name) (l : List String) :
    addName l name = l ++ [name] := by
  unfold Disk.addName
  split
  · exact absurd rfl hname.ne_empty
  · exact absurd rfl hname.ne_point
  · exact absurd rfl hname.ne_points
  · rfl

theorem IsNormal.addName {l : List String} (hl : IsNormal l) (n : String) :
    IsNormal (addName l n) := by
  by_cases hkept : Disk.addName l n = l ++ [n]
  · rw [hkept]
    exact hl.snoc hkept
  -- A name that is not added leaves the names or takes the last of them back.
  · unfold Disk.addName at hkept ⊢
    split
    · split_ifs with hempty
      · simp [List.isEmpty_iff.mp hempty] at hkept
      · exact hl
    · exact hl
    · split_ifs with hpoints
      · simp [hpoints] at hkept
      · exact hl.of_beginning (List.dropLast_prefix l)
    · simp at hkept

theorem isNormal_foldl {l : List String} (hl : IsNormal l) (names : List String) :
    IsNormal (names.foldl Disk.addName l) := by
  induction names generalizing l with
  | nil => exact hl
  | cons n names ih => exact ih (hl.addName n)

theorem IsNormal.foldl_eq {l : List String} (hl : IsNormal l) : l.foldl Disk.addName [] = l := by
  induction l using List.reverseRecOn with
  | nil => rfl
  | append_singleton init n ih =>
    rw [List.foldl_append, ih (hl.of_beginning (List.prefix_append _ _))]
    exact hl init n (List.prefix_refl _)

theorem mem_addName {l : List String} {n m : String} (hm : m ∈ addName l n) : m ∈ l ∨ m = n := by
  unfold addName at hm
  split at hm
  · split_ifs at hm with hempty
    · exact Or.inr (by simpa using hm)
    · exact Or.inl hm
  · exact Or.inl hm
  · split_ifs at hm with hpoints
    · simpa using hm
    · exact Or.inl (List.dropLast_subset l hm)
  · simpa using hm

theorem SlashFree.foldl {l : List String} (hl : SlashFree l) {names : List String}
    (hnames : SlashFree names) : SlashFree (names.foldl addName l) := by
  induction names generalizing l with
  | nil => exact hl
  | cons n names ih =>
    obtain ⟨hn, hnames⟩ := List.forall_mem_cons.mp hnames
    refine ih (fun m hm ↦ ?_) hnames
    rcases mem_addName hm with hm | rfl
    · exact hl m hm
    · exact hn

/-- A path that is made of names that count is normal. -/
theorem normal_pathOf {l : List String} (hl : IsNormal l) (hfree : SlashFree l) :
    normal (pathOf l) = pathOf l := by
  unfold normal
  split_ifs with hempty
  · exact (String.isEmpty_iff.mp hempty).symm
  · have hne : l ≠ [] := by
      rintro rfl
      exact hempty rfl
    rw [names_pathOf hfree hne, hl.foldl_eq]
    rfl

/-! ### Names within a directory -/

/-- The names of a directory, before a name within it. -/
def within (directory : String) : List String :=
  if directory.isEmpty then []
  else if directory.endsWith "/" then (names directory).dropLast
  else names directory

/-- The names of a directory that count. -/
def base (directory : String) : List String := (within directory).foldl addName []

theorem exists_of_endsWith {directory : String} (hslash : directory.endsWith "/" = true) :
    ∃ path, directory = path ++ "/" := by
  rw [String.endsWith_eq_endsWith_toSlice, String.Slice.endsWith_string_iff] at hslash
  obtain ⟨path, hpath⟩ : ['/'] <:+ directory.toList := by simpa using hslash
  refine ⟨String.ofList path, String.toList_inj.mp ?_⟩
  rw [String.toList_append, String.toList_ofList, ← hpath]
  rfl

variable (directory : String) {name : String}

theorem join_append (name rest : String) :
    join directory name ++ rest = join directory (name ++ rest) := by
  unfold join
  split_ifs <;> simp only [String.append_assoc]

theorem names_join (hname : '/' ∉ name.toList) :
    names (join directory name) = within directory ++ [name] := by
  unfold join within
  cases hempty : directory.isEmpty with
  | true =>
    obtain rfl := String.isEmpty_iff.mp hempty
    simpa using names_of_notMem hname
  | false =>
    cases hslash : directory.endsWith "/" with
    | true =>
      obtain ⟨path, rfl⟩ := exists_of_endsWith hslash
      simp [names_append_slash, names_slash, names_of_notMem hname]
    | false => simp [names_append_slash, names_of_notMem hname]

theorem isNormal_base : IsNormal (base directory) :=
  isNormal_foldl isNormal_nil _

theorem slashFree_base : SlashFree (base directory) := by
  refine SlashFree.foldl (fun _ h ↦ by cases h) fun n hn ↦ ?_
  refine slashFree_names directory n ?_
  unfold within at hn
  split_ifs at hn
  · cases hn
  · exact List.dropLast_subset _ hn
  · exact hn

theorem ne_empty_of_names {path : String} {l : List String} (hname : IsOrdinary name)
    (hnames : names path = l ++ [name]) : path ≠ "" := by
  rintro rfl
  rw [names_of_notMem (by simp : '/' ∉ "".toList)] at hnames
  have hlast : some "" = some name := by simpa using congrArg List.getLast? hnames
  exact hname.ne_empty (Option.some.inj hlast).symm

/-- The path of a name within a directory is the names of the directory and that name. -/
theorem normal_join (hname : IsOrdinary name) :
    normal (join directory name) = pathOf (base directory ++ [name]) := by
  have hne : join directory name ≠ "" :=
    ne_empty_of_names hname (names_join directory hname.slashFree)
  rw [normal, if_neg (by simpa using hne), names_join directory hname.slashFree, List.foldl_append]
  exact congrArg pathOf (hname.addName _)

theorem names_normal_join (hname : IsOrdinary name) :
    names (normal (join directory name)) = base directory ++ [name] := by
  rw [normal_join directory hname, names_pathOf _ (by simp)]
  intro n hn
  rcases List.mem_append.mp hn with hn | hn
  · exact slashFree_base directory n hn
  · rw [List.mem_singleton.mp hn]
    exact hname.slashFree

/-- A slash at the end of a directory adds nothing to it. -/
theorem normal_eq : normal directory = pathOf (base directory) := by
  unfold normal base within
  split_ifs with hempty hslash
  · rfl
  · obtain ⟨path, rfl⟩ := exists_of_endsWith hslash
    rw [names_slash, List.foldl_append, List.dropLast_concat]
    generalize (names path).foldl addName [] = l
    cases l <;> rfl
  · rfl

/-! ### The way to a path -/

/-- The paths of the beginnings of some names, from the shortest to the longest. -/
def wayTo (l : List String) : List String :=
  l.foldl (fun acc n ↦ acc ++ [match acc.getLast? with | some p => p ++ "/" ++ n | none => n]) []

theorem wayTo_append (l : List String) (n : String) :
    wayTo (l ++ [n]) =
      wayTo l ++ [match (wayTo l).getLast? with | some p => p ++ "/" ++ n | none => n] := by
  simp only [wayTo, List.foldl_append, List.foldl_cons, List.foldl_nil]

theorem pathOf_snoc {l : List String} (hl : l ≠ []) (n : String) :
    pathOf (l ++ [n]) = pathOf l ++ "/" ++ n := by
  rw [pathOf, String.intercalate_append_of_ne_nil hl (List.cons_ne_nil n []),
    String.intercalate_singleton]
  rfl

theorem getLast?_wayTo {l : List String} (hl : l ≠ []) :
    (wayTo l).getLast? = some (pathOf l) := by
  induction l using List.reverseRecOn with
  | nil => exact absurd rfl hl
  | append_singleton init n ih =>
    rw [wayTo_append, List.getLast?_concat]
    by_cases hinit : init = []
    · subst hinit
      simp [wayTo, pathOf]
    · rw [ih hinit, pathOf_snoc hinit]

/-- The way to some names goes on to one name more. -/
theorem wayTo_snoc (l : List String) (n : String) :
    wayTo (l ++ [n]) = wayTo l ++ [pathOf (l ++ [n])] := by
  have hlast := getLast?_wayTo (List.append_ne_nil_of_right_ne_nil l (List.cons_ne_nil n []))
  rw [wayTo_append, List.getLast?_concat] at hlast
  rw [wayTo_append, Option.some.inj hlast]

theorem mem_wayTo {l : List String} {p : String} (hp : p ∈ wayTo l) :
    ∃ l', l' <+: l ∧ l' ≠ [] ∧ p = pathOf l' := by
  induction l using List.reverseRecOn with
  | nil => cases hp
  | append_singleton init n ih =>
    rw [wayTo_snoc, List.mem_append, List.mem_singleton] at hp
    rcases hp with hp | rfl
    · obtain ⟨l', hbegins, hne, rfl⟩ := ih hp
      exact ⟨l', hbegins.trans (List.prefix_append _ _), hne, rfl⟩
    · exact ⟨_, List.prefix_refl _, by simp, rfl⟩

theorem ancestors_pathOf {l : List String} (hl : SlashFree l) :
    ancestors (pathOf l) = (wayTo l).filter (· ≠ "") := by
  by_cases hne : l = []
  · subst hne
    rfl
  · rw [ancestors, names_pathOf hl hne]
    rfl

variable {directory} in
/-- Every path on the way to a directory is normal, and none is that of a name within it. -/
theorem of_mem_ancestors {p : String} (hp : p ∈ ancestors (normal directory)) :
    normal p = p ∧ p ≠ "" ∧ ∀ name, IsOrdinary name → p ≠ normal (join directory name) := by
  rw [normal_eq, ancestors_pathOf (slashFree_base directory), List.mem_filter] at hp
  obtain ⟨hway, hempty⟩ := hp
  obtain ⟨l, hbegins, hne, rfl⟩ := mem_wayTo hway
  have hfree : SlashFree l := fun n hn ↦ slashFree_base directory n (hbegins.subset hn)
  have hnormal : IsNormal l := (isNormal_base directory).of_beginning hbegins
  refine ⟨normal_pathOf hnormal hfree, by simpa using hempty, fun name hname heq ↦ ?_⟩
  have hnames := names_normal_join directory hname
  rw [← heq, names_pathOf hfree hne] at hnames
  have hlength := hbegins.length_le
  rw [hnames, List.length_append, List.length_singleton] at hlength
  omega

theorem normal_join_ne_empty (hname : IsOrdinary name) : normal (join directory name) ≠ "" :=
  ne_empty_of_names hname (names_normal_join directory hname)

/-- The way to a name within a directory goes through the directory. -/
theorem ancestors_join (hname : IsOrdinary name) :
    ancestors (normal (join directory name)) =
      ancestors (normal directory) ++ [normal (join directory name)] := by
  have hne : normal (join directory name) ≠ "" := normal_join_ne_empty directory hname
  have hfree : SlashFree (base directory ++ [name]) :=
    names_normal_join directory hname ▸ slashFree_names (normal (join directory name))
  rw [normal_join directory hname] at hne ⊢
  rw [normal_eq, ancestors_pathOf hfree, ancestors_pathOf (slashFree_base directory), wayTo_snoc,
    List.filter_append, List.filter_singleton]
  simp [hne]

theorem normal_join_inj {other : String} (hname : IsOrdinary name) (hother : IsOrdinary other)
    (heq : normal (join directory name) = normal (join directory other)) : name = other := by
  have hnames := names_normal_join directory hname
  rw [heq, names_normal_join directory hother] at hnames
  exact (List.singleton_inj.mp (List.append_cancel_left hnames)).symm

theorem parent_join (hname : IsOrdinary name) :
    parent (normal (join directory name)) = normal directory := by
  rw [parent, names_normal_join directory hname, List.dropLast_concat, normal_eq]
  rfl

theorem normal_normal (path : String) : normal (normal path) = normal path := by
  rw [normal_eq path, normal_pathOf (isNormal_base path) (slashFree_base path)]

/-! ### Entries -/

/-- What is held under a name within a directory. -/
def held (d : Disk) (directory name : String) : Option DiskEntry :=
  d.entries.get? (normal (join directory name))

theorem isDirectory_iff (d : Disk) (path : String) :
    d.isDirectory path = true ↔
      normal path = "" ∨ d.entries.get? (normal path) = some .directory := by
  unfold isDirectory entry?
  by_cases hempty : normal path = ""
  · simp [hempty]
  · rcases d.entries.get? (normal path) with _ | _ | text <;> simp [hempty]

theorem isDirectory_normal (d : Disk) (path : String) :
    d.isDirectory (normal path) = d.isDirectory path := by
  rw [Bool.eq_iff_iff, isDirectory_iff, isDirectory_iff, normal_normal]

/-- A name within a directory does not stand for directories only. -/
theorem endsWith_join (hname : IsOrdinary name) :
    (join directory name).endsWith "/" = false := by
  by_contra hslash
  obtain ⟨path, hpath⟩ := exists_of_endsWith (Bool.not_eq_false _ ▸ hslash)
  have hnames := names_join directory hname.slashFree
  rw [hpath, names_slash] at hnames
  have hlast : some "" = some name := by simpa using congrArg List.getLast? hnames
  exact hname.ne_empty (Option.some.inj hlast).symm

theorem entry?_join (d : Disk) (hname : IsOrdinary name) :
    d.entry? (join directory name) = d.held directory name := by
  rw [ entry?, held, if_neg (normal_join_ne_empty directory hname), endsWith_join directory hname]
  rcases d.entries.get? (normal (join directory name)) with _ | _ | text <;> rfl

theorem isFile_normal_join (d : Disk) (hname : IsOrdinary name)
    (habsent : d.held directory name = none) :
    d.isFile (normal (join directory name)) = false := by
  rw [held] at habsent
  simp [isFile, entry?, normal_normal, normal_join_ne_empty directory hname, habsent]

/-- A file is in the way to a directory. -/
def blocks (d : Disk) (directory : String) : Bool := (ancestors (normal directory)).any d.isFile

/-- What is read of a file depends on what is held under its name and on whether a file is in the
way to its directory. -/
theorem read_join (d : Disk) (hname : IsOrdinary name) :
    d.read (join directory name) =
      match d.held directory name with
      | some (.file text) => .ok text
      | some .directory => .error .unreadable
      | none =>
        if hasValidNames (join directory name) && !d.blocks directory then .error .absent
        else .error .unreadable := by
  rw [read, entry?_join directory d hname]
  rcases hheld : d.held directory name with _ | _ | text
  · simp [ancestors_join directory hname, blocks, isFile_normal_join directory d hname hheld]
  · rfl
  · rfl

/-- Whether a file can be held under a name. -/
def accepts (d : Disk) (directory name : String) : Bool :=
  hasValidNames (normal (join directory name)) && d.held directory name != some .directory

theorem write?_join (d : Disk) (hname : IsOrdinary name)
    (hdirectory : d.isDirectory directory = true) (text : String) :
    d.write? (join directory name) text =
      if d.accepts directory name then
        some ⟨d.entries.insert (normal (join directory name)) (.file text)⟩
      else none := by
  have htaken : (!d.isDirectory (join directory name)) =
      (d.held directory name != some .directory) := by
    rw [Bool.eq_iff_iff]
    simp [isDirectory_iff, normal_join_ne_empty directory hname, held, ← Bool.not_eq_true]
  simp only [write?, parent_join directory hname, isDirectory_normal, hdirectory, Bool.and_true,
    htaken, accepts]
  rfl

theorem rename?_join {d : Disk} {source : String} (hsource : IsOrdinary source)
    (hname : IsOrdinary name) (hdirectory : d.isDirectory directory = true) {text : String}
    (hheld : d.held directory source = some (.file text)) :
    d.rename? (join directory source) (join directory name) =
      if d.accepts directory name then
        some ⟨(d.entries.insert (normal (join directory name)) (.file text)).erase
          (normal (join directory source))⟩
      else none := by
  rw [rename?, entry?_join directory d hsource, hheld]
  dsimp only
  rw [write?_join directory d hname hdirectory]
  split_ifs <;> rfl

/-! ### Creating a directory -/

theorem mem_ancestors_self (hne : normal directory ≠ "") :
    normal directory ∈ ancestors (normal directory) := by
  rw [normal_eq] at hne ⊢
  rw [ancestors_pathOf (slashFree_base directory), List.mem_filter]
  have hbase : base directory ≠ [] := fun hempty ↦ hne (by rw [hempty]; rfl)
  exact ⟨List.mem_of_getLast? (getLast?_wayTo hbase), by simpa using hne⟩

theorem any_isFile_congr {l : List String} {d d' : Disk}
    (hsame : ∀ p ∈ l, d.isFile p = d'.isFile p) : l.any d.isFile = l.any d'.isFile := by
  rw [Bool.eq_iff_iff, List.any_eq_true, List.any_eq_true]
  exact exists_congr fun p ↦ and_congr_right fun hp ↦ by rw [hsame p hp]

section Congr

variable {directory} {d d' : Disk}
  (hsame : ∀ p ∈ ancestors (normal directory), d.entries.get? p = d'.entries.get? p)
include hsame

/-- Whether a directory is blocked depends on what is on the way to it. -/
theorem blocks_congr : d.blocks directory = d'.blocks directory := by
  refine any_isFile_congr fun p hp ↦ ?_
  obtain ⟨hnormal, -, -⟩ := of_mem_ancestors hp
  simp only [isFile, entry?, hnormal, hsame p hp]

theorem isDirectory_congr : d.isDirectory directory = d'.isDirectory directory := by
  rw [Bool.eq_iff_iff, isDirectory_iff, isDirectory_iff]
  by_cases hempty : normal directory = ""
  · simp [hempty]
  · rw [hsame _ (mem_ancestors_self directory hempty)]

end Congr

/-- Creates one directory, unless a file has its name. -/
def step? (d : Disk) (p : String) : Option Disk :=
  match d.entry? p with
  | some .directory => some d
  | some (.file _) => none
  | none => some { d with entries := d.entries.insert p .directory }

/-- Where no file has its name, a directory is there afterwards, and nothing else has changed. -/
theorem step?_spec {p : String} (hnormal : normal p = p) (hne : p ≠ "") (d : Disk) :
    match d.step? p with
    | none => d.isFile p = true
    | some d' => d.isFile p = false ∧ d'.entries.get? p = some .directory ∧
        ∀ q, q ≠ p → d'.entries.get? q = d.entries.get? q := by
  unfold step?
  rcases hentry : d.entry? p with _ | text | _
  · refine ⟨by simp [isFile, hentry], by simp [Table.get?_insert], fun q hq ↦ ?_⟩
    simp only [Table.get?_insert, if_neg hq]
  · simp [isFile, hentry]
  · refine ⟨by simp [isFile, hentry], ?_, fun _ _ ↦ rfl⟩
    have hdirectory := (isDirectory_iff d p).mp (by simp [isDirectory, hentry])
    rw [hnormal] at hdirectory
    exact hdirectory.resolve_left hne

theorem foldlM_step? {l : List String} (hl : ∀ p ∈ l, normal p = p ∧ p ≠ "") (d : Disk) :
    match l.foldlM step? d with
    | none => l.any d.isFile = true
    | some d' => l.any d.isFile = false ∧ (∀ p ∈ l, d'.entries.get? p = some .directory) ∧
        ∀ p, p ∉ l → d'.entries.get? p = d.entries.get? p := by
  induction l generalizing d with
  | nil => exact ⟨rfl, List.forall_mem_nil _, fun _ _ ↦ rfl⟩
  | cons p l ih =>
    obtain ⟨⟨hnormal, hne⟩, hl⟩ := List.forall_mem_cons.mp hl
    have hstep := step?_spec hnormal hne d
    rw [List.foldlM_cons, List.any_cons]
    rcases hfirst : d.step? p with _ | d₁
    · rw [hfirst] at hstep
      simp [hstep]
    rw [hfirst] at hstep
    obtain ⟨hfile, hdirectory, hothers⟩ := hstep
    -- A directory that is made is no file, so that the same files are in the way after it.
    have hfiles : ∀ q ∈ l, d₁.isFile q = d.isFile q := by
      intro q hq
      obtain ⟨hq, hqne⟩ := hl q hq
      by_cases heq : q = p
      · subst heq
        rw [hfile]
        simp [isFile, entry?, hq, hqne, hdirectory]
      · simp only [isFile, entry?, hq, hothers q heq]
    have hany : l.any d₁.isFile = l.any d.isFile := any_isFile_congr hfiles
    have hrest := ih hl d₁
    simp only [Option.bind_eq_bind, Option.bind_some]
    rcases hsecond : l.foldlM step? d₁ with _ | d'
    · rw [hsecond, hany] at hrest
      simp [hrest]
    · rw [hsecond, hany] at hrest
      obtain ⟨hnone, hall, hkept⟩ := hrest
      refine ⟨by simp [hfile, hnone], fun q hq ↦ ?_, fun q hq ↦ ?_⟩
      · rcases List.mem_cons.mp hq with rfl | hq
        · by_cases hmem : q ∈ l
          · exact hall q hmem
          · rw [hkept q hmem, hdirectory]
        · exact hall q hq
      · obtain ⟨hqp, hql⟩ := not_or.mp (mt List.mem_cons.mpr hq)
        rw [hkept q hql, hothers q hqp]

/-- A directory can be created unless its names are too long or a file is in the way. It is there
afterwards, and nothing has changed but the way to it. -/
theorem createDirectory?_spec (d : Disk) :
    match d.createDirectory? directory with
    | none => (hasValidNames directory && !d.blocks directory) = false
    | some d' => (hasValidNames directory && !d.blocks directory) = true ∧
        d'.isDirectory directory = true ∧ d'.blocks directory = false ∧
          ∀ p, p ∉ ancestors (normal directory) → d'.entries.get? p = d.entries.get? p := by
  have hways : ∀ p ∈ ancestors (normal directory), normal p = p ∧ p ≠ "" := fun p hp ↦
    ⟨(of_mem_ancestors hp).1, (of_mem_ancestors hp).2.1⟩
  have hsteps := foldlM_step? hways d
  have hcreate : d.createDirectory? directory =
      if hasValidNames directory then (ancestors (normal directory)).foldlM step? d else none := rfl
  rw [hcreate]
  cases hasValidNames directory with
  | false => rfl
  | true =>
    rw [if_pos rfl]
    rcases hresult : (ancestors (normal directory)).foldlM step? d with _ | d'
    · rw [hresult] at hsteps
      simpa [blocks] using hsteps
    · rw [hresult] at hsteps
      obtain ⟨hnone, hall, hkept⟩ := hsteps
      refine ⟨by simpa [blocks] using hnone, ?_, ?_, hkept⟩
      · rw [isDirectory_iff]
        by_cases hempty : normal directory = ""
        · exact Or.inl hempty
        · exact Or.inr (hall _ (mem_ancestors_self directory hempty))
      · rw [blocks, List.any_eq_false]
        intro p hp
        obtain ⟨hnormal, hne⟩ := hways p hp
        simp [isFile, entry?, hnormal, hne, hall p hp]

end Disk

end Guildhall
