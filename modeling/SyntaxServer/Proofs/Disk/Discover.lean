import Mathlib.Data.List.Nodup
import Mathlib.Data.Set.Card
import SyntaxServer.Proofs.Disk.Tree
import SyntaxServer.Proofs.Result
import SyntaxServer.Session.Workspace

/-! # The files that the walk finds

The walk through a directory finds the files below it that have the ending of a language and that no excluded
directory holds, each once and in the order of their paths. It does not see through links, and in which order the
directories list their entries makes no difference.
-/
namespace SyntaxServer

namespace Path

variable {exclude rest : List Name} {name next : Name}

/-- The last name has the ending of a language, and none of the names above it is excluded. -/
structure IsWanted (exclude path : List Name) : Prop where
  language : ∃ name ∈ path.getLast?, hasLanguage name
  entered : ∀ above ∈ path.dropLast, above ∉ exclude

theorem isWanted_singleton : IsWanted exclude [name] ↔ hasLanguage name :=
  ⟨fun h => by simpa using h.language,fun h => ⟨by simpa using h,by simp⟩⟩

theorem isWanted_cons_cons :
    IsWanted exclude (name :: next :: rest) ↔ name ∉ exclude ∧ IsWanted exclude (next :: rest) := by
  constructor
  · rintro ⟨hlanguage,hentered⟩
    rw [List.dropLast_cons_cons, List.forall_mem_cons] at hentered
    exact ⟨hentered.1,by rwa [List.getLast?_cons_cons] at hlanguage,hentered.2⟩
  · rintro ⟨hname,hlanguage,hentered⟩
    refine ⟨by rwa [List.getLast?_cons_cons],?_⟩
    rw [List.dropLast_cons_cons, List.forall_mem_cons]
    exact ⟨hname,hentered⟩

end Path

namespace Entry

mutual

/-- The supported files in an entry, as the walk comes to them. -/
def found (exclude : List Name) (path : List Name) (name : Name) : Entry → List (List Name)
  | file => if Path.hasLanguage name then [path ++ [name]] else []
  | directory es => if exclude.contains name then [] else foundIn exclude (path ++ [name]) es
  | link _ => []

def foundIn (exclude : List Name) (path : List Name) : List (Name × Entry) → List (List Name)
  | [] => []
  | (name, e) :: es => found exclude path name e ++ foundIn exclude path es

end

mutual

/-- The directories in an entry that the walk enters, in the order in which it does. -/
def entered (exclude : List Name) (path : List Name) (name : Name) : Entry → List (List Name)
  | directory es =>
    if exclude.contains name then [] else (path ++ [name]) :: enteredIn exclude (path ++ [name]) es
  | _ => []

def enteredIn (exclude : List Name) (path : List Name) : List (Name × Entry) → List (List Name)
  | [] => []
  | (name, e) :: es => entered exclude path name e ++ enteredIn exclude path es

end

theorem foundIn_eq_flatMap (exclude path : List Name) (es : List (Name × Entry)) :
    foundIn exclude path es = es.flatMap fun p => found exclude path p.1 p.2 := by
  induction es with
  | nil => simp [foundIn]
  | cons p es ih => simp [foundIn, ih]

theorem enteredIn_eq_flatMap (exclude path : List Name) (es : List (Name × Entry)) :
    enteredIn exclude path es = es.flatMap fun p => entered exclude path p.1 p.2 := by
  induction es with
  | nil => simp [enteredIn]
  | cons p es ih => simp [enteredIn, ih]

section Walk

variable (check : List Name → Except DiskError Unit) (exclude : List Name)

mutual

/-- The walk finds what there is, unless a directory that it enters stops it. -/
theorem supported_eq (path : List Name) (name : Name) : (e : Entry) → supported check exclude path name e =
    ((entered exclude path name e).forM check >>= fun _ => .ok (found exclude path name e))
  | file => by
    rw [supported, entered, found]
    · rfl
    · simp
  | link _ => by
    rw [supported, entered, found]
    · rfl
    · simp
  | directory es => by
    rw [supported, entered, found]
    split
    · rfl
    · rw [List.forM_eq_forM, List.forM_cons, supportedIn_eq _ es]
      cases check (path ++ [name]) <;> rfl

theorem supportedIn_eq (path : List Name) : (es : List (Name × Entry)) → supportedIn check exclude path es =
    ((enteredIn exclude path es).forM check >>= fun _ => .ok (foundIn exclude path es))
  | [] => by
    rw [supportedIn, enteredIn, foundIn]
    rfl
  | (name, e) :: es => by
    rw [supportedIn, enteredIn, foundIn, supported_eq path name e, supportedIn_eq path es]
    simp only [List.forM_eq_forM, List.forM_append]
    cases forM (entered exclude path name e) check with
    | error e => rfl
    | ok u => cases forM (enteredIn exclude path es) check <;> rfl

end

end Walk

variable {exclude path dir : List Name} {name : Name} {e : Entry} {es : List (Name × Entry)}

/-- What is collected from the entries of a directory is collected from one of them. -/
theorem mem_flatMap_entries_iff (path : List Name) {collect : Name × Entry → List (List Name)}
    {p : Option Entry → List Name → Prop}
    (hnames : (es.map (·.1)).Nodup) (hnone : ∀ rest, ¬ p none rest)
    (hes : ∀ q ∈ es, ∀ dir, dir ∈ collect q ↔ ∃ rest, dir = path ++ q.1 :: rest ∧ p (q.2.at? rest) (q.1 :: rest)) :
    dir ∈ es.flatMap collect ↔
      ∃ name rest, dir = path ++ name :: rest ∧ p ((directory es).at? (name :: rest)) (name :: rest) := by
  rw [List.mem_flatMap]
  constructor
  · rintro ⟨q,hq,hdir⟩
    obtain ⟨rest,rfl,hat⟩ := (hes q hq _).1 hdir
    refine ⟨q.1,rest,rfl,?_⟩
    rw [at?_cons, entries, (lookup_eq_some_iff hnames).2 hq]
    exact hat
  · rintro ⟨name,rest,rfl,hat⟩
    rw [at?_cons, entries] at hat
    cases hlookup : lookup name es with
    | none =>
      rw [hlookup] at hat
      exact absurd hat (hnone _)
    | some below =>
      rw [hlookup] at hat
      exact ⟨(name,below),mem_of_lookup hlookup,(hes _ (mem_of_lookup hlookup) _).2 ⟨rest,rfl,hat⟩⟩

theorem mem_found_iff (he : e.Distinct) : dir ∈ found exclude path name e ↔
    ∃ rest, dir = path ++ name :: rest ∧ e.at? rest = some .file ∧ Path.IsWanted exclude (name :: rest) := by
  induction he generalizing path name dir with
  | file => simp [found, at?_eq_some_iff (e := file) rfl, Path.isWanted_singleton, and_comm]
  | link target => simp [found, at?_eq_some_iff (e := link target) rfl]
  | @directory es hnames hbelow ih =>
    have hes : dir ∈ foundIn exclude (path ++ [name]) es ↔ ∃ next rest, dir = path ++ [name] ++ next :: rest ∧
        (directory es).at? (next :: rest) = some .file ∧ Path.IsWanted exclude (next :: rest) := by
      rw [foundIn_eq_flatMap]
      exact mem_flatMap_entries_iff _ (p := fun o rest => o = some .file ∧ Path.IsWanted exclude rest) hnames
        (by simp) fun q hq dir => ih q hq
    by_cases hname : name ∈ exclude
    · simp only [found, List.contains_iff_mem, hname, if_true, List.not_mem_nil, false_iff]
      rintro ⟨rest,-,hat,hwanted⟩
      cases rest with
      | nil => cases hat
      | cons next rest => exact (Path.isWanted_cons_cons.1 hwanted).1 hname
    · simp only [found, List.contains_iff_mem, hname, if_false, hes]
      constructor
      · rintro ⟨next,rest,rfl,hat,hwanted⟩
        exact ⟨next :: rest,by simp,hat,Path.isWanted_cons_cons.2 ⟨hname,hwanted⟩⟩
      · rintro ⟨rest,rfl,hat,hwanted⟩
        cases rest with
        | nil => cases hat
        | cons next rest => exact ⟨next,rest,by simp,hat,(Path.isWanted_cons_cons.1 hwanted).2⟩

theorem mem_entered_iff (he : e.Distinct) : dir ∈ entered exclude path name e ↔
    ∃ rest, dir = path ++ name :: rest ∧ e.kindAt? rest = some .directory ∧
      ∀ above ∈ name :: rest, above ∉ exclude := by
  induction he generalizing path name dir with
  | file => simp [entered, kindAt?, at?_eq_some_iff (e := file) rfl, kind_eq_directory_iff]
  | link target => simp [entered, kindAt?, at?_eq_some_iff (e := link target) rfl, kind_eq_directory_iff]
  | @directory es hnames hbelow ih =>
    have hes : dir ∈ enteredIn exclude (path ++ [name]) es ↔ ∃ next rest, dir = path ++ [name] ++ next :: rest ∧
        (directory es).kindAt? (next :: rest) = some .directory ∧ ∀ above ∈ next :: rest, above ∉ exclude := by
      rw [enteredIn_eq_flatMap]
      exact mem_flatMap_entries_iff _
        (p := fun o rest => o.map kind = some .directory ∧ ∀ above ∈ rest, above ∉ exclude) hnames (by simp)
        fun q hq dir => ih q hq
    by_cases hname : name ∈ exclude
    · simp only [entered, List.contains_iff_mem, hname, if_true, List.not_mem_nil, false_iff]
      rintro ⟨rest,-,-,habove⟩
      exact habove name List.mem_cons_self hname
    · simp only [entered, List.contains_iff_mem, hname, if_false]
      rw [List.mem_cons, hes]
      constructor
      · rintro (rfl | ⟨next,rest,rfl,hkind,habove⟩)
        · exact ⟨[],rfl,rfl,by simpa using hname⟩
        · exact ⟨next :: rest,by simp,hkind,List.forall_mem_cons.2 ⟨hname,habove⟩⟩
      · rintro ⟨rest,rfl,hkind,habove⟩
        cases rest with
        | nil => exact .inl rfl
        | cons next rest => exact .inr ⟨next,rest,by simp,hkind,(List.forall_mem_cons.1 habove).2⟩

theorem mem_foundIn_iff (he : (directory es).Distinct) :
    dir ∈ foundIn exclude [] es ↔ (directory es).at? dir = some .file ∧ Path.IsWanted exclude dir := by
  cases he with
  | directory hnames hbelow =>
    rw [foundIn_eq_flatMap, mem_flatMap_entries_iff []
      (p := fun o rest => o = some .file ∧ Path.IsWanted exclude rest) hnames (by simp)
      fun q hq dir => mem_found_iff (hbelow q hq)]
    cases dir <;> simp

theorem mem_cons_enteredIn_iff (he : (directory es).Distinct) :
    dir ∈ [] :: enteredIn exclude [] es ↔
      (directory es).kindAt? dir = some .directory ∧ ∀ name ∈ dir, name ∉ exclude := by
  cases he with
  | directory hnames hbelow =>
    rw [List.mem_cons, enteredIn_eq_flatMap, mem_flatMap_entries_iff []
      (p := fun o rest => o.map kind = some .directory ∧ ∀ above ∈ rest, above ∉ exclude) hnames (by simp)
      fun q hq dir => mem_entered_iff (hbelow q hq)]
    cases dir <;> simp [kindAt?, kind]

theorem nodup_foundIn (hnames : (es.map (·.1)).Nodup) (hbelow : ∀ p ∈ es, p.2.Distinct)
    (hes : ∀ p ∈ es, (found exclude path p.1 p.2).Nodup) : (foundIn exclude path es).Nodup := by
  rw [foundIn_eq_flatMap, List.nodup_flatMap]
  refine ⟨hes,(List.pairwise_map.1 hnames).imp_of_mem ?_⟩
  intro p q hp hq hne dir hdir hdir'
  obtain ⟨rest,rfl,-⟩ := (mem_found_iff (hbelow p hp)).1 hdir
  obtain ⟨rest',heq,-⟩ := (mem_found_iff (hbelow q hq)).1 hdir'
  exact hne (List.head_eq_of_cons_eq (List.append_cancel_left heq))

theorem nodup_found (he : e.Distinct) : (found exclude path name e).Nodup := by
  induction he generalizing path name with
  | file =>
    rw [found]
    split <;> simp
  | link target => simp [found]
  | directory hnames hbelow ih =>
    rw [found]
    split
    · exact .nil
    · exact nodup_foundIn hnames hbelow fun p hp => ih p hp

end Entry

section Sorting

variable {files files' : List (List Name)}

theorem pairwise_lt_mergeSort (h : files.Nodup) : (files.mergeSort fun a b => decide (a ≤ b)).Pairwise (· < ·) := by
  have hle : (files.mergeSort fun a b => decide (a ≤ b)).Pairwise fun a b => decide (a ≤ b) = true :=
    List.pairwise_mergeSort (by simpa using fun a b c => Std.le_trans) (by simpa using fun a b => Std.le_total) files
  have hne : (files.mergeSort fun a b => decide (a ≤ b)).Nodup := (List.mergeSort_perm ..).nodup_iff.2 h
  exact (hle.and hne).imp fun ⟨hle,hne⟩ => Std.lt_of_le_of_ne (by simpa using hle) hne

theorem nodup_of_pairwise_lt (h : files.Pairwise (· < ·)) : files.Nodup := by
  refine h.imp ?_
  rintro a _ hlt rfl
  exact Std.lt_irrefl hlt

theorem eq_of_pairwise_lt (h : files.Pairwise (· < ·)) (h' : files'.Pairwise (· < ·))
    (hmem : ∀ path, path ∈ files ↔ path ∈ files') : files = files' := by
  have hperm := (List.perm_ext_iff_of_nodup (nodup_of_pairwise_lt h) (nodup_of_pairwise_lt h')).2 hmem
  exact hperm.eq_of_pairwise (fun a b _ _ hab hba => absurd (Std.lt_trans hab hba) Std.lt_irrefl) h h'

theorem ncard_of_pairwise_lt {p : List Name → Prop} (h : files.Pairwise (· < ·))
    (hmem : ∀ path, path ∈ files ↔ p path) : Set.ncard {path | p path} = files.length := by
  have hset : {path | p path} = (files.toFinset : Set (List Name)) := by
    ext path
    simp [hmem]
  rw [hset, Set.ncard_coe_finset, List.toFinset_card_of_nodup (nodup_of_pairwise_lt h)]

end Sorting

namespace Disk

variable {disk : Disk} {root : Bytes} {top : List Name} {exclude : List String}

/-- A path leads to a directory, at the plain path `top`. -/
def LeadsTo (disk : Disk) (root : Bytes) (top : List Name) : Prop :=
  disk.resolve false root = .ok top ∧ disk.root.kindAt? top = some .directory

/-- A regular file below the directory `top` that the walk is to find, by its path from there. -/
def IsSupported (disk : Disk) (top : List Name) (exclude : List String) (path : List Name) : Prop :=
  disk.root.at? (top ++ path) = some .file ∧ Path.IsWanted (exclude.map Utf8.encodeString) path

/-- A directory that the walk enters, by its path from the directory `top`, with which it begins. -/
def IsEntered (disk : Disk) (top : List Name) (exclude : List String) (path : List Name) : Prop :=
  disk.root.kindAt? (top ++ path) = some .directory ∧ ∀ name ∈ path, name ∉ exclude.map Utf8.encodeString

/-- All directories that the walk enters can be read. -/
def IsReadable (disk : Disk) (root : Bytes) (exclude : List String) : Prop :=
  ∀ top, disk.LeadsTo root top → ∀ path, disk.IsEntered top exclude path →
    disk.checkReadable (Path.join root path) (top ++ path) = .ok ()

theorem LeadsTo.unique {top' : List Name} (h : disk.LeadsTo root top) (h' : disk.LeadsTo root top') : top = top' :=
  Except.ok.inj (h.1.symm.trans h'.1)

/-- A walk checks the directories that it enters, one after another, and then sorts what it has found. -/
theorem discover_eq {es : List (Name × Entry)} (hresolve : disk.resolve false root = .ok top)
    (hat : disk.root.at? top = some (.directory es)) : disk.discover root exclude =
      (([] :: Entry.enteredIn (exclude.map Utf8.encodeString) [] es).forM
          fun path => disk.checkReadable (Path.join root path) (top ++ path)) >>= fun _ =>
        .ok ((Entry.foundIn (exclude.map Utf8.encodeString) [] es).mergeSort fun a b => decide (a ≤ b)) := by
  have hroot : disk.checkReadable (Path.join root []) (top ++ []) = disk.checkReadable root top := by
    rw [Path.join, List.foldl_nil, List.append_nil]
  rw [discover, list, hresolve, ok_bind, List.forM_eq_forM, List.forM_cons, hroot]
  simp only [hat]
  cases disk.checkReadable root top with
  | error e => rfl
  | ok u =>
    simp only [ok_bind, pure, Except.pure, Entry.supportedIn_eq, List.forM_eq_forM]
    cases forM (Entry.enteredIn (exclude.map Utf8.encodeString) [] es)
      fun path => disk.checkReadable (Path.join root path) (top ++ path) <;> rfl

theorem isReadable_iff {es : List (Name × Entry)} (hdisk : disk.root.Distinct) (htop : disk.LeadsTo root top)
    (hat : disk.root.at? top = some (.directory es)) : disk.IsReadable root exclude ↔
      ([] :: Entry.enteredIn (exclude.map Utf8.encodeString) [] es).forM
        (fun path => disk.checkReadable (Path.join root path) (top ++ path)) = .ok () := by
  have hbelow (path : List Name) : disk.root.kindAt? (top ++ path) = (Entry.directory es).kindAt? path := by
    rw [Entry.kindAt?, Entry.at?_append, hat]
    rfl
  simp only [forM_eq_ok_iff, Entry.mem_cons_enteredIn_iff (hdisk.at? hat), ← hbelow]
  exact ⟨fun h => h top htop,fun h top' htop' => htop.unique htop' ▸ h⟩

/-- A walk of a directory fails just when one of the directories that it enters cannot be read. -/
theorem discover_of_leadsTo (hdisk : disk.root.Distinct) (htop : disk.LeadsTo root top) (exclude : List String) :
    (disk.IsReadable root exclude → ∃ files, disk.discover root exclude = .ok files ∧ files.Pairwise (· < ·) ∧
      ∀ path, path ∈ files ↔ disk.IsSupported top exclude path) ∧
    (¬ disk.IsReadable root exclude → ∃ e, disk.discover root exclude = .error e) := by
  obtain ⟨es,hat⟩ := Entry.kindAt?_eq_directory_iff.1 htop.2
  have hes := hdisk.at? hat
  rw [isReadable_iff hdisk htop hat, discover_eq htop.1 hat]
  constructor
  · intro hall
    rw [hall]
    refine ⟨_,rfl,pairwise_lt_mergeSort ?_,fun path => ?_⟩
    · cases hes with
      | directory hnames hbelow => exact Entry.nodup_foundIn hnames hbelow fun p hp => Entry.nodup_found (hbelow p hp)
    · rw [(List.mergeSort_perm ..).mem_iff, Entry.mem_foundIn_iff hes, IsSupported, Entry.at?_append, hat]
      rfl
  · intro hsome
    cases hcheck : ([] :: Entry.enteredIn (exclude.map Utf8.encodeString) [] es).forM
        fun path => disk.checkReadable (Path.join root path) (top ++ path) with
    | ok u => exact absurd hcheck hsome
    | error e => exact ⟨e,rfl⟩

theorem discover_of_resolve_error {e : DiskError} (hresolve : disk.resolve false root = .error e) :
    disk.discover root exclude = .error e := by
  simp only [discover, list, hresolve, error_bind]

theorem discover_of_kindAt?_ne (hresolve : disk.resolve false root = .ok top)
    (hkind : disk.root.kindAt? top ≠ some .directory) :
    disk.discover root exclude =
      .error (if (disk.root.kindAt? top).isNone then .notFound else .notADirectory) := by
  have hlist : disk.list root =
      .error (if (disk.root.kindAt? top).isNone then .notFound else .notADirectory) := by
    simp only [list, hresolve, ok_bind]
    split
    · next hat => exact absurd (Entry.kindAt?_eq_directory_iff.2 ⟨_,hat⟩) hkind
    · next hat => simp [Entry.kindAt?, hat]
    · next hat => simp [Entry.kindAt?, hat]
  rw [discover, hlist]
  rfl

theorem discover_of_not_leadsTo (hnone : ¬ ∃ top, disk.LeadsTo root top) :
    ∃ e, disk.discover root exclude = .error e := by
  cases hresolve : disk.resolve false root with
  | error e => exact ⟨e,discover_of_resolve_error hresolve⟩
  | ok top => exact ⟨_,discover_of_kindAt?_ne hresolve fun hkind => hnone ⟨top,hresolve,hkind⟩⟩

/-- Listing the directories in other orders changes nothing, as long as all that the walk enters can be read. -/
theorem discover_relisted {root' : Entry} (hdisk : disk.root.Distinct) (hreadable : disk.IsReadable root exclude)
    (h : disk.root.Relisted root') :
    { disk with root := root' }.discover root exclude = disk.discover root exclude := by
  have hkinds := h.kindAt?_eq hdisk
  have hsame : { disk with root := root' }.resolve false root = disk.resolve false root :=
    congrArg _ (funext fun _ => (Entry.follow_congr hkinds ..).symm)
  cases hresolve : disk.resolve false root with
  | error e => rw [discover_of_resolve_error hresolve, discover_of_resolve_error (hsame.trans hresolve)]
  | ok top =>
    by_cases hkind : disk.root.kindAt? top = some .directory
    · have htop : disk.LeadsTo root top := ⟨hresolve,hkind⟩
      have htop' : { disk with root := root' }.LeadsTo root top :=
        ⟨hsame.trans hresolve,(hkinds top).symm.trans hkind⟩
      have hreadable' : { disk with root := root' }.IsReadable root exclude := by
        intro top' htop'' path hentered
        rw [← htop'.unique htop''] at hentered ⊢
        exact hreadable top htop path ⟨(hkinds _).trans hentered.1,hentered.2⟩
      obtain ⟨files,hfiles,hlt,hmem⟩ := (discover_of_leadsTo hdisk htop exclude).1 hreadable
      obtain ⟨files',hfiles',hlt',hmem'⟩ := (discover_of_leadsTo (h.distinct hdisk) htop' exclude).1 hreadable'
      rw [hfiles, hfiles', eq_of_pairwise_lt hlt' hlt fun path => ?_]
      rw [hmem, hmem', IsSupported, IsSupported, ← Entry.kindAt?_eq_file_iff, ← Entry.kindAt?_eq_file_iff, hkinds]
    · rw [discover_of_kindAt?_ne hresolve hkind, discover_of_kindAt?_ne (hsame.trans hresolve) (hkinds top ▸ hkind),
        hkinds]

/-- The walk finds every supported file, each once and in order, and tells their number. -/
theorem discover_finds_supported (hdisk : disk.root.Distinct) (root : Bytes) (exclude : List String)
    (hreadable : disk.IsReadable root exclude) :
    (∀ top, disk.LeadsTo root top →
      (∃ files, disk.discover root exclude = .ok files ∧ files.Pairwise (· < ·) ∧
        ∀ path, path ∈ files ↔ disk.IsSupported top exclude path) ∧
      ∀ (uri : Uri) (count : Nat), uri.filePath? = some root →
        count = Set.ncard {path | disk.IsSupported top exclude path} →
        Workspace.walk disk uri exclude = .log .info s!"indexed {count} files under {uri}") ∧
    ((¬ ∃ top, disk.LeadsTo root top) → ∃ e, disk.discover root exclude = .error e) ∧
    ∀ root', disk.root.Relisted root' →
      { disk with root := root' }.discover root exclude = disk.discover root exclude ∧
      ∀ uri : Uri, uri.filePath? = some root →
        Workspace.walk { disk with root := root' } uri exclude = Workspace.walk disk uri exclude := by
  refine ⟨fun top htop => ?_,discover_of_not_leadsTo,fun root' h => ?_⟩
  · obtain ⟨files,hfiles,hlt,hmem⟩ := (discover_of_leadsTo hdisk htop exclude).1 hreadable
    refine ⟨⟨files,hfiles,hlt,hmem⟩,fun uri count huri hcount => ?_⟩
    rw [hcount, ncard_of_pairwise_lt hlt hmem, Workspace.walk, huri]
    simp only [hfiles, Workspace.walkLine]
  · refine ⟨discover_relisted hdisk hreadable h,fun uri huri => ?_⟩
    simp only [Workspace.walk, huri, discover_relisted hdisk hreadable h]

/-- A workspace with a link, a directory of an excluded name that may not be read, and a file of that name. -/
def nested : Disk where
  root := .directory [(Utf8.encodeString "w",.directory [
    (Utf8.encodeString "b.json",.file),
    (Utf8.encodeString "a",.directory [
      (Utf8.encodeString "z.YML",.file),
      (Utf8.encodeString "b.json",.directory [(Utf8.encodeString "x.toml",.file)])]),
    (Utf8.encodeString "l",.link (Utf8.encodeString "a"))])]
  unreadable := [[Utf8.encodeString "w",Utf8.encodeString "a",Utf8.encodeString "b.json"]]

theorem discover_finds_supported_nested :
    nested.root.Distinct ∧ nested.LeadsTo (Utf8.encodeString "/w") [Utf8.encodeString "w"] ∧
      nested.IsReadable (Utf8.encodeString "/w") ["b.json"] ∧
      ∃ files, nested.discover (Utf8.encodeString "/w") ["b.json"] = .ok files ∧
        [Utf8.encodeString "a",Utf8.encodeString "z.YML"] ∈ files ∧ [Utf8.encodeString "b.json"] ∈ files ∧
        [Utf8.encodeString "a",Utf8.encodeString "b.json",Utf8.encodeString "x.toml"] ∉ files := by
  have hdistinct : nested.root.Distinct := by
    refine .directory (by decide) ?_
    simp only [List.forall_mem_singleton]
    refine .directory (by decide) ?_
    simp only [List.forall_mem_cons]
    refine ⟨.file,.directory (by decide) ?_,.link _,by simp⟩
    simp only [List.forall_mem_cons]
    refine ⟨.file,.directory (by decide) ?_,by simp⟩
    simpa using .file
  have htop : nested.LeadsTo (Utf8.encodeString "/w") [Utf8.encodeString "w"] := ⟨by cbv,by cbv⟩
  have hreadable : nested.IsReadable (Utf8.encodeString "/w") ["b.json"] :=
    (isReadable_iff hdistinct htop rfl).2 (by cbv)
  obtain ⟨⟨files,hfiles,-,hmem⟩,-⟩ := (discover_finds_supported hdistinct _ ["b.json"] hreadable).1 _ htop
  refine ⟨hdistinct,htop,hreadable,files,hfiles,(hmem _).2 ⟨rfl,?_,?_⟩,(hmem _).2 ⟨rfl,?_,?_⟩,?_⟩
  · exact ⟨_,rfl,by decide⟩
  · decide
  · exact ⟨_,rfl,by decide⟩
  · decide
  · intro h
    exact ((hmem _).1 h).2.entered (Utf8.encodeString "b.json") (by decide) (by decide)

end Disk

end SyntaxServer
