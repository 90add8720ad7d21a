import Mathlib.Data.List.Nodup
import SyntaxServer.Disk.Basic

/-! # Directories as sets

The entries of a directory come in some order, which is not the disk's to choose. Names are listed once, so what is at
a path does not depend on that order, and neither does where a path leads.
-/
namespace SyntaxServer

namespace Entry

variable {e e' : Entry} {es fs : List (Name × Entry)} {name : Name}

/-- No directory lists a name twice. -/
inductive Distinct : Entry → Prop where
  | file : Distinct file
  | link (target : Bytes) : Distinct (link target)
  | directory {es : List (Name × Entry)} (hnames : (es.map (·.1)).Nodup) (hbelow : ∀ p ∈ es, Distinct p.2) :
    Distinct (directory es)

/-- The directories of two trees list the same entries, each in an order of its own. -/
inductive Relisted : Entry → Entry → Prop where
  | refl (e : Entry) : Relisted e e
  | reorder {es fs : List (Name × Entry)} (h : es.Perm fs) : Relisted (directory es) (directory fs)
  | inside {e e' : Entry} (es fs : List (Name × Entry)) (name : Name) (h : Relisted e e') :
    Relisted (directory (es ++ (name,e) :: fs)) (directory (es ++ (name,e') :: fs))
  | trans {e₁ e₂ e₃ : Entry} (h₁ : Relisted e₁ e₂) (h₂ : Relisted e₂ e₃) : Relisted e₁ e₃

/-- What an entry is, without what it holds. -/
inductive Kind where
  | file
  | directory
  | link (target : Bytes)

def kind : Entry → Kind
  | file => .file
  | directory _ => .directory
  | link target => .link target

/-- What is at a plain path. -/
def kindAt? (e : Entry) (path : List Name) : Option Kind := (e.at? path).map kind

theorem lookup_append : lookup name (es ++ fs) = (lookup name es).or (lookup name fs) := by
  induction es with
  | nil => rfl
  | cons p es ih =>
    simp only [List.cons_append, lookup]
    split
    · rfl
    · exact ih

theorem mem_of_lookup (h : lookup name es = some e) : (name,e) ∈ es := by
  induction es with
  | nil => cases h
  | cons p es ih =>
    simp only [lookup] at h
    split at h
    · next hp =>
      cases h
      exact hp ▸ .head _
    · exact .tail _ (ih h)

theorem lookup_eq_some_iff (hnames : (es.map (·.1)).Nodup) : lookup name es = some e ↔ (name,e) ∈ es := by
  refine ⟨mem_of_lookup,fun h => ?_⟩
  induction es with
  | nil => cases h
  | cons p es ih =>
    obtain ⟨hp,hes⟩ := List.nodup_cons.1 hnames
    rw [lookup]
    rcases List.mem_cons.1 h with rfl | h
    · exact if_pos rfl
    · have hname : name ∈ es.map (·.1) := List.mem_map_of_mem h
      rw [if_neg (ne_of_mem_of_not_mem hname hp).symm, ih hes h]

theorem lookup_eq_of_perm (h : es.Perm fs) (hnames : (es.map (·.1)).Nodup) : lookup name es = lookup name fs := by
  have hnames' := (h.map (·.1)).nodup hnames
  apply Option.ext
  intro e
  rw [lookup_eq_some_iff hnames, lookup_eq_some_iff hnames', h.mem_iff]

@[simp] theorem at?_nil : e.at? [] = some e := rfl

theorem at?_cons {names : List Name} : e.at? (name :: names) = lookup name e.entries >>= (at? · names) := rfl

theorem at?_eq_some_iff (hentries : e.entries = []) {path : List Name} :
    e.at? path = some e' ↔ path = [] ∧ e = e' := by
  cases path with
  | nil => simp
  | cons name path => simp [at?_cons, hentries, lookup]

theorem at?_append (path rest : List Name) : e.at? (path ++ rest) = e.at? path >>= (at? · rest) := by
  induction path generalizing e with
  | nil => rfl
  | cons name path ih =>
    simp only [List.cons_append, at?_cons, Option.bind_eq_bind, Option.bind_assoc]
    exact congrArg _ (funext fun below => ih)

theorem Distinct.at? {path : List Name} (h : e.Distinct) (hpath : e.at? path = some e') : e'.Distinct := by
  induction path generalizing e with
  | nil => cases hpath; exact h
  | cons name path ih =>
    obtain ⟨below,hlookup,hbelow⟩ := Option.bind_eq_some_iff.1 hpath
    cases h with
    | directory _ hes => exact ih (hes _ (mem_of_lookup hlookup)) hbelow
    | _ => cases hlookup

theorem Relisted.distinct (h : Relisted e e') (he : e.Distinct) : e'.Distinct := by
  induction h with
  | refl => exact he
  | reorder h =>
    cases he with
    | directory hnames hbelow => exact .directory ((h.map _).nodup hnames) fun p hp => hbelow p (h.mem_iff.2 hp)
  | inside es fs name h ih =>
    cases he with
    | directory hnames hbelow =>
      refine .directory (by simpa using hnames) fun p hp => ?_
      rcases List.mem_append.1 hp with hp | hp
      · exact hbelow p (List.mem_append_left _ hp)
      · rcases List.mem_cons.1 hp with rfl | hp
        · exact ih (hbelow (name,_) (by simp))
        · exact hbelow p (List.mem_append_right _ (.tail _ hp))
  | trans h₁ h₂ ih₁ ih₂ => exact ih₂ (ih₁ he)

theorem kindAt?_cons {names : List Name} : e.kindAt? (name :: names) = lookup name e.entries >>= (kindAt? · names) := by
  simp only [kindAt?, at?_cons, Option.bind_eq_bind, Option.map_bind]
  rfl

theorem Relisted.kindAt?_eq (h : Relisted e e') (he : e.Distinct) (path : List Name) :
    e.kindAt? path = e'.kindAt? path := by
  induction h generalizing path with
  | refl => rfl
  | reorder h =>
    cases he with
    | directory hnames =>
      cases path with
      | nil => rfl
      | cons name path => rw [kindAt?_cons, kindAt?_cons, entries, entries, lookup_eq_of_perm h hnames]
  | inside es fs name' h ih =>
    cases he with
    | directory hnames hbelow =>
      cases path with
      | nil => rfl
      | cons name path =>
        have hkinds := ih (hbelow (name',_) (by simp)) path
        rw [kindAt?_cons, kindAt?_cons, entries, entries, lookup_append, lookup_append]
        cases lookup name es with
        | some => rfl
        | none =>
          simp only [lookup, Option.none_or]
          split
          · exact hkinds
          · rfl
  | trans h₁ h₂ ih₁ ih₂ => exact (ih₁ he path).trans (ih₂ (h₁.distinct he) path)

theorem kind_eq_file_iff : e.kind = .file ↔ e = file := by cases e <;> simp [kind]

theorem kind_eq_directory_iff : e.kind = .directory ↔ ∃ es, e = directory es := by cases e <;> simp [kind]

theorem kind_eq_link_iff {target : Bytes} : e.kind = .link target ↔ e = link target := by cases e <;> simp [kind]

variable {path : List Name}

theorem kindAt?_eq_none_iff : e.kindAt? path = none ↔ e.at? path = none := Option.map_eq_none_iff

theorem kindAt?_eq_file_iff : e.kindAt? path = some .file ↔ e.at? path = some file := by
  simp [kindAt?, kind_eq_file_iff]

theorem kindAt?_eq_directory_iff : e.kindAt? path = some .directory ↔ ∃ es, e.at? path = some (directory es) := by
  simp only [kindAt?, Option.map_eq_some_iff, kind_eq_directory_iff]
  aesop

theorem kindAt?_eq_link_iff {target : Bytes} :
    e.kindAt? path = some (.link target) ↔ e.at? path = some (link target) := by
  simp [kindAt?, kind_eq_link_iff]

/-- A path is followed by what is at the paths on its way. -/
theorem follow_congr (hkinds : ∀ path, e.kindAt? path = e'.kindAt? path) (new : Bool) (links : Nat)
    (here rest : List Name) : follow e new links here rest = follow e' new links here rest := by
  fun_induction follow e new links here rest with
  | case1 => rw [follow]
  | case2 links here name rest hidle ih => simp only [follow, hidle, ih, if_true]
  | case3 links here name rest hidle hparent ih => simp [follow, hidle, hparent, ih]
  | case4 links here name rest hidle hparent hlong => simp [follow, hidle, hparent, hlong]
  | case5 links here name rest hidle hparent hlong hat hnew | case6 links here name rest hidle hparent hlong hat hnew =>
    have hat' := kindAt?_eq_none_iff.1 ((hkinds _).symm.trans (kindAt?_eq_none_iff.2 hat))
    simp [follow, hidle, hparent, hlong, hat', hnew]
  | case7 links here name rest hidle hparent hlong hat hlast | case8 links here name rest hidle hparent hlong hat hlast =>
    have hat' := kindAt?_eq_file_iff.1 ((hkinds _).symm.trans (kindAt?_eq_file_iff.2 hat))
    simp [follow, hidle, hparent, hlong, hat', hlast]
  | case9 links here name rest hidle hparent hlong es hat ih =>
    obtain ⟨es',hat'⟩ := kindAt?_eq_directory_iff.1 ((hkinds _).symm.trans (kindAt?_eq_directory_iff.2 ⟨es,hat⟩))
    simp [follow, hidle, hparent, hlong, hat', ih]
  | case10 here name rest hidle hparent hlong target hat =>
    have hat' := kindAt?_eq_link_iff.1 ((hkinds _).symm.trans (kindAt?_eq_link_iff.2 hat))
    simp [follow, hidle, hparent, hlong, hat']
  | case11 here name rest hidle hparent hlong target hat links ih =>
    have hat' := kindAt?_eq_link_iff.1 ((hkinds _).symm.trans (kindAt?_eq_link_iff.2 hat))
    rw [follow]
    simpa [hidle, hparent, hlong, hat'] using ih

end Entry

end SyntaxServer
