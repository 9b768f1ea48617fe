/-
# Files and their editors

A loaded page has an editor for each file, in the order of the files. When files are read again, an
editor is found by the name under which it is shown, and of several editors of one name the first is
found. It ends up with the last text that was read under that name, and the others keep what they
were loaded with. Where no two names are the same, every editor shows the text of its own file.
-/

import ClassroomClient.Client.Basic
import Mathlib.Data.List.Forall2

namespace ClassroomClient

/-! ## Loading -/

/-- The editor that a file gets. -/
def freshEditor (read : FileReader) (spec : FileSpec) : Except ConfigError Editor := do
  let content ← readFile read spec.path
  return .fresh (displayName spec.path) spec.kind content

/-- A loaded page has nothing on it but the editors of its files. -/
theorem loadPage_eq (read : FileReader) (files : List FileSpec) :
    loadPage read files =
      (files.mapM (freshEditor read)).map fun editors => { Page.empty with editors } := by
  have hfold (page : Page) : files.foldlM (fun page spec => do
      let content ← readFile read spec.path
      return page.addEditor (.fresh (displayName spec.path) spec.kind content)) page =
        (files.mapM (freshEditor read)).map fun editors =>
          { page with editors := page.editors ++ editors } := by
    induction files generalizing page with
    | nil => simp [Except.map, pure, Except.pure]
    | cons spec rest ih =>
        rw [List.foldlM_cons, List.mapM_cons, freshEditor]
        cases readFile read spec.path with
        | error error => rfl
        | ok content =>
            refine (ih _).trans ?_
            cases rest.mapM (freshEditor read) with
            | error error => rfl
            | ok editors => simp [Except.map, bind, Except.bind, pure, Except.pure, Page.addEditor]
  exact hfold Page.empty

theorem freshEditor_eq_ok {read : FileReader} {spec : FileSpec} {editor : Editor}
    (hfresh : freshEditor read spec = .ok editor) :
    ∃ content, read spec.path = .ok content ∧
      editor = .fresh (displayName spec.path) spec.kind content := by
  unfold freshEditor readFile at hfresh
  cases hread : read spec.path with
  | error reason =>
      rw [hread] at hfresh
      cases hfresh
  | ok content =>
      rw [hread] at hfresh
      cases hfresh
      exact ⟨content, rfl, rfl⟩

/-- The editors of a loaded page are those of the files, in the same order. -/
theorem forall₂_of_loadPage {read : FileReader} {files : List FileSpec} {page : Page}
    (hload : loadPage read files = .ok page) :
    List.Forall₂ (fun spec editor => freshEditor read spec = .ok editor) files page.editors := by
  have hfiles (editors : List Editor) (hmap : files.mapM (freshEditor read) = .ok editors) :
      List.Forall₂ (fun spec editor => freshEditor read spec = .ok editor) files editors := by
    clear hload
    induction files generalizing editors with
    | nil =>
        cases hmap
        exact .nil
    | cons spec rest ih =>
        rw [List.mapM_cons] at hmap
        cases hfirst : freshEditor read spec with
        | error error =>
            rw [hfirst] at hmap
            cases hmap
        | ok editor =>
            cases hrest : rest.mapM (freshEditor read) with
            | error error =>
                rw [hfirst, hrest] at hmap
                cases hmap
            | ok others =>
                rw [hfirst, hrest] at hmap
                cases hmap
                exact .cons hfirst (ih others hrest)
  rw [loadPage_eq] at hload
  cases hmap : files.mapM (freshEditor read) with
  | error error =>
      rw [hmap] at hload
      cases hload
  | ok editors =>
      rw [hmap] at hload
      cases hload
      exact hfiles editors hmap

/-! ## Reading again -/

/-- The page after files have been read again, one after the other. -/
def refreshEditors (read : FileReader) (page : Page) (files : List FileSpec) : Page :=
  files.foldl (refreshEditor read) page

/-- The last text that is read for the files of a name. -/
def lastRead? (read : FileReader) (files : List FileSpec) (name : String) : Option String :=
  files.reverse.findSome? fun spec =>
    if displayName spec.path = name then (read spec.path).toOption else none

namespace Page

/-- Of the editors of a name the first gets the content. -/
theorem getElem?_setFirstContent (name content : String) (editors : List Editor) (i : Nat) :
    (setFirstContent name content editors)[i]? = editors[i]?.map fun editor =>
      if editor.filename = name ∧ name ∉ (editors.map Editor.filename).take i then
        { editor with content }
      else editor := by
  induction editors generalizing i with
  | nil => rfl
  | cons first rest ih =>
      unfold setFirstContent
      by_cases hfirst : first.filename = name
      · cases i with
        | zero => simp [hfirst]
        | succ i => simp [hfirst]
      · cases i with
        | zero => simp [hfirst]
        | succ i => simp [hfirst, ih, Ne.symm hfirst]

theorem map_filename_setFirstContent (name content : String) (editors : List Editor) :
    (setFirstContent name content editors).map Editor.filename = editors.map Editor.filename := by
  induction editors with
  | nil => rfl
  | cons first rest ih =>
      unfold setFirstContent
      split
      · rfl
      · rw [List.map_cons, List.map_cons, ih]

end Page

theorem map_filename_refreshEditor (read : FileReader) (page : Page) (spec : FileSpec) :
    (refreshEditor read page spec).editors.map Editor.filename =
      page.editors.map Editor.filename := by
  unfold refreshEditor
  split
  · exact Page.map_filename_setFirstContent _ _ page.editors
  · rfl

theorem lastRead?_singleton (read : FileReader) (spec : FileSpec) (name : String) :
    lastRead? read [spec] name =
      if displayName spec.path = name then (read spec.path).toOption else none := by
  simp [lastRead?]

theorem lastRead?_cons (read : FileReader) (spec : FileSpec) (rest : List FileSpec)
    (name : String) :
    lastRead? read (spec :: rest) name =
      (lastRead? read rest name).or (lastRead? read [spec] name) := by
  rw [lastRead?, List.reverse_cons, List.findSome?_append]
  rfl

namespace Editor

/-- What an editor becomes when a text has been found for its name. Only the first editor of a name
takes it over, so it depends on the names that come before. -/
def renewed (editor : Editor) (before : List String) (found : Option String) : Editor :=
  if editor.filename ∈ before then editor
  else { editor with content := found.getD editor.content }

@[simp] theorem filename_renewed (editor : Editor) (before : List String)
    (found : Option String) : (editor.renewed before found).filename = editor.filename := by
  unfold renewed
  split <;> rfl

@[simp] theorem renewed_none (editor : Editor) (before : List String) :
    editor.renewed before none = editor := by
  unfold renewed
  split <;> rfl

/-- Of two texts the later one stays. -/
theorem renewed_renewed (editor : Editor) (before : List String) (first second : Option String) :
    (editor.renewed before first).renewed before second =
      editor.renewed before (second.or first) := by
  by_cases hbefore : editor.filename ∈ before
  · simp [renewed, hbefore]
  · cases second <;> simp [renewed, hbefore]

end Editor

theorem getElem?_refreshEditor (read : FileReader) (page : Page) (spec : FileSpec) (i : Nat) :
    (refreshEditor read page spec).editors[i]? = page.editors[i]?.map fun editor =>
      editor.renewed ((page.editors.map Editor.filename).take i)
        (lastRead? read [spec] editor.filename) := by
  simp only [lastRead?_singleton]
  unfold refreshEditor
  cases read spec.path with
  | ok content =>
      dsimp only
      rw [Page.setContent, Page.getElem?_setFirstContent]
      congr 1
      funext editor
      by_cases hname : editor.filename = displayName spec.path
      · simp [Editor.renewed, hname, Except.toOption]
      · simp [hname, Ne.symm hname]
  | error reason => simp [Except.toOption]

/-- What the editors are after files have been read again. -/
theorem getElem?_refreshEditors (read : FileReader) (page : Page) (files : List FileSpec)
    (i : Nat) :
    (refreshEditors read page files).editors[i]? = page.editors[i]?.map fun editor =>
      editor.renewed ((page.editors.map Editor.filename).take i)
        (lastRead? read files editor.filename) := by
  induction files generalizing page with
  | nil => simp [refreshEditors, lastRead?]
  | cons spec rest ih =>
      rw [refreshEditors, List.foldl_cons]
      refine (ih (refreshEditor read page spec)).trans ?_
      rw [getElem?_refreshEditor, map_filename_refreshEditor, Option.map_map]
      congr 1
      funext editor
      rw [Function.comp_apply, Editor.renewed_renewed, Editor.filename_renewed, ← lastRead?_cons]

/-! ## Names -/

/-- The names under which files are shown. -/
def displayNames (files : List FileSpec) : List String :=
  files.map fun spec => displayName spec.path

theorem map_filename_of_loadPage {read : FileReader} {files : List FileSpec} {page : Page}
    (hload : loadPage read files = .ok page) :
    page.editors.map Editor.filename = displayNames files := by
  have heditors := forall₂_of_loadPage hload
  clear hload
  generalize page.editors = editors at heditors
  induction heditors with
  | nil => rfl
  | @cons spec editor _ _ hfresh _ ih =>
      obtain ⟨content, _, rfl⟩ := freshEditor_eq_ok hfresh
      rw [List.map_cons, ih]
      rfl

theorem lastRead?_eq_none (read : FileReader) {files : List FileSpec} {name : String}
    (hnone : ∀ spec ∈ files, displayName spec.path ≠ name) : lastRead? read files name = none := by
  rw [lastRead?, List.findSome?_eq_none_iff]
  intro spec hspec
  exact if_neg (hnone spec (List.mem_reverse.1 hspec))

/-- Where one file alone has the name, its text is the one that is read. -/
theorem lastRead?_of_unique (read : FileReader) {files : List FileSpec} {spec : FileSpec}
    (hspec : spec ∈ files)
    (hunique : ∀ other ∈ files, displayName other.path = displayName spec.path → other = spec) :
    lastRead? read files (displayName spec.path) = (read spec.path).toOption := by
  induction files with
  | nil => cases hspec
  | cons first rest ih =>
      have hrest (other : FileSpec) (hother : other ∈ rest) :
          displayName other.path = displayName spec.path → other = spec :=
        hunique other (List.mem_cons_of_mem first hother)
      rw [lastRead?_cons, lastRead?_singleton]
      by_cases hlater : spec ∈ rest
      · rw [ih hlater hrest]
        by_cases hfirst : displayName first.path = displayName spec.path
        · rw [if_pos hfirst, hunique first List.mem_cons_self hfirst, Option.or_self]
        · rw [if_neg hfirst, Option.or_none]
      · obtain rfl : spec = first := (List.mem_cons.1 hspec).resolve_right hlater
        have hnone : lastRead? read rest (displayName spec.path) = none := by
          apply lastRead?_eq_none
          intro other hother hname
          rw [hrest other hother hname] at hother
          exact hlater hother
        rw [hnone, if_pos rfl, Option.none_or]

end ClassroomClient
