import Mathlib.Data.List.DropRight
import VideoSurvey.Settings.File

/-!
# What changes in a tree

`Tree.Changes` compares two trees place by place: where the second differs from the first, it holds
what may be left there, directories stay, and a new directory stands only where nothing stood or
where what stood may be taken away. Every operation on trees has its lemma, from the single place
that a file is written to up to the settings, and the lemmas are joined by `Changes.trans`.

A path that is written to is found again with what was written (`find_of_write`). Writing and
finding do not follow the same parts, since a path to write to is followed without the empty parts
at its end, so both are brought to the names that the path has by its parts alone.
-/

set_option autoImplicit false

namespace VideoSurvey.Files

/-! ## Names of a path -/

/-- Whether a path goes through some names. -/
def Passes (path : Path) (through : Names) : Prop :=
  ∃ passed, passed <+: innerParts path.text ∧ passed.foldl enter path.start = through

theorem innerParts_eq (text : String) : innerParts text = (parts text).rdropWhile String.isEmpty :=
  rfl

theorem foldl_enter_rdropWhile (here : Names) (l : List String) :
    (l.rdropWhile String.isEmpty).foldl enter here = l.foldl enter here := by
  induction l using List.reverseRecOn with
  | nil => rfl
  | append_singleton l part ih =>
      by_cases hpart : part.isEmpty
      · rw [List.rdropWhile_concat_pos _ _ _ hpart, ih, List.foldl_append]
        simp [enter, String.isEmpty_iff.1 hpart]
      · rw [List.rdropWhile_concat_neg _ _ _ hpart]

/-- The empty parts at the end of a path lead nowhere. -/
theorem foldl_enter_innerParts (path : Path) :
    (innerParts path.text).foldl enter path.start = path.names :=
  foldl_enter_rdropWhile _ _

/-- Without a slash at its end, a path has no empty parts there. -/
theorem innerParts_eq_parts {text : String} (htext : text.isEmpty = false)
    (hslash : endsInSlash text = false) : innerParts text = parts text := by
  rw [innerParts_eq, List.rdropWhile_eq_self_iff]
  intro hne hempty
  have hlast : (parts text).getLast? = some "" := by
    rw [List.getLast?_eq_some_getLast hne, String.isEmpty_iff.1 hempty]
  rw [parts, List.getLast?_map, Option.map_eq_some_iff] at hlast
  obtain ⟨stretch, hstretch, hs⟩ := hlast
  have hnil : stretch = [] := by simpa using congrArg String.toList hs
  subst hnil
  rcases Text.getLast?_stretches hstretch with hnil | hslash'
  · have hempty : text = "" := by simpa using hnil
    simp [hempty] at htext
  · simp [endsInSlash, hslash'] at hslash

namespace Tree

/-! ## Comparing trees -/

/-- Where the second tree differs from the first, it holds what may be left there. What was a
directory stays one, and a new one stands where nothing stood or where that may be taken away. -/
def Changes (may : Names → Option Node → Prop) (before after : Tree) : Prop :=
  ∀ place, after.node? place = before.node? place ∨
    may place (after.node? place) ∧ before.node? place ≠ some .directory ∧
      (after.node? place = some .directory → before.node? place = none ∨ may place none)

section Comparing

variable {may may' : Names → Option Node → Prop} {a b c tree : Tree} {place : Names} {node : Node}

theorem changes_refl (may : Names → Option Node → Prop) (tree : Tree) : Changes may tree tree :=
  fun _ => .inl rfl

theorem Changes.trans (hab : Changes may a b) (hbc : Changes may b c) : Changes may a c := by
  intro place
  rcases hbc place with hsame | ⟨hmay, hfile, hdirectory⟩
  · rw [hsame]
    exact hab place
  · right
    rcases hab place with hsame | ⟨hmay', hfile', -⟩
    · rw [hsame] at hfile hdirectory
      exact ⟨hmay, hfile, hdirectory⟩
    · refine ⟨hmay, hfile', fun hd => ?_⟩
      -- where nothing was in between, something was taken away before
      rcases hdirectory hd with hnone | htaken
      · rw [hnone] at hmay'
        exact .inr hmay'
      · exact .inr htaken

theorem Changes.mono (h : Changes may a b) (hmay : ∀ place node, may place node → may' place node) :
    Changes may' a b := by
  intro place
  rcases h place with hsame | ⟨hleft, hfile, hdirectory⟩
  · exact .inl hsame
  · exact .inr ⟨hmay _ _ hleft, hfile, fun hd => (hdirectory hd).imp_right (hmay _ _)⟩

/-- What stands in a place stays there when only directories may be left in it. -/
theorem Changes.node?_eq (h : Changes may a b) (hnode : a.node? place = some node)
    (hmay : ∀ node, may place node → node = some .directory) : b.node? place = some node := by
  rcases h place with hsame | ⟨hleft, -, hdirectory⟩
  · rw [hsame, hnode]
  · rcases hdirectory (hmay _ hleft) with hnone | htaken
    · rw [hnode] at hnone
      cases hnone
    · cases hmay _ htaken

theorem changes_put (hmay : may place (some node)) (hfile : tree.node? place ≠ some .directory)
    (hdirectory : node = .directory → tree.node? place = none) :
    Changes may tree (tree.put place node) := by
  intro other
  by_cases hother : other = place
  · subst hother
    have htop : other ≠ [] := by
      rintro rfl
      exact hfile (node?_nil tree)
    rw [node?_put_self htop]
    exact .inr ⟨hmay, hfile, fun hd => .inl (hdirectory (Option.some.inj hd))⟩
  · exact .inl (node?_put_of_ne hother tree node)

theorem changes_erase (hmay : may place none) (hfile : tree.node? place ≠ some .directory) :
    Changes may tree (tree.erase place) := by
  intro other
  by_cases hother : other = place
  · subst hother
    have htop : other ≠ [] := by
      rintro rfl
      exact hfile (node?_nil tree)
    rw [node?_erase_self htop]
    exact .inr ⟨hmay, hfile, nofun⟩
  · exact .inl (node?_erase_of_ne hother tree)

end Comparing

/-! ## Directories -/

theorem changes_makeDirectories (tree : Tree) (here : Names) (parts : List String) :
    Changes (fun place node => (∃ passed, passed <+: parts ∧ passed.foldl enter here = place) ∧
        node = some .directory)
      tree (tree.makeDirectories here parts).2 := by
  induction parts generalizing tree here with
  | nil => exact changes_refl _ tree
  | cons part r ih =>
      -- what lies on the way from the next place lies on the way from here
      have hrest : ∀ tree' : Tree, Changes (fun place node =>
          (∃ passed, passed <+: part :: r ∧ passed.foldl enter here = place) ∧
            node = some .directory)
          tree' (tree'.makeDirectories (enter here part) r).2 := by
        intro tree'
        apply (ih tree' (enter here part)).mono
        rintro place node ⟨⟨passed, hpassed, rfl⟩, rfl⟩
        exact ⟨⟨part :: passed, List.cons_prefix_cons.2 ⟨rfl, hpassed⟩, rfl⟩, rfl⟩
      simp only [makeDirectories]
      split
      · exact hrest tree
      · exact changes_refl _ tree
      -- the one directory that is put here stands where nothing stood
      · rename_i hnone
        split
        · exact changes_refl _ tree
        · have hplace : [part] <+: part :: r := List.cons_prefix_cons.2 ⟨rfl, List.nil_prefix⟩
          refine Changes.trans (changes_put ⟨⟨[part], hplace, rfl⟩, rfl⟩ ?_ fun _ => hnone)
            (hrest _)
          simp only [List.foldl_cons, List.foldl_nil, hnone]
          exact nofun

/-- Only directories are made, and only on the way. -/
theorem changes_createDirectories (tree : Tree) (path : Path) :
    Changes (fun place node => Passes path place ∧ node = some .directory)
      tree (tree.createDirectories path).2 := by
  unfold createDirectories
  split
  · exact changes_refl _ tree
  · split
    · exact changes_refl _ tree
    · exact changes_makeDirectories tree path.start (innerParts path.text)
    · exact changes_refl _ tree

/-! ## Files -/

theorem names_of_walk {tree : Tree} {here there : Names} {parts : List String}
    (h : tree.walk here parts = .ok there) : parts.foldl enter here = there := by
  induction parts generalizing here with
  | nil =>
      cases h
      rfl
  | cons part r ih =>
      unfold walk at h
      split at h
      · split at h
        · cases h
        · exact ih h
      · cases h
      · cases h

/-- A way goes through directories only, so it is the same with another file at a place that is
none. -/
theorem walk_put {tree : Tree} {here there place : Names} {parts : List String} {node : Node}
    (hplace : tree.node? place ≠ some .directory) (h : tree.walk here parts = .ok there) :
    (tree.put place node).walk here parts = .ok there := by
  -- the place where the way ends is not looked at
  induction parts generalizing here with
  | nil => exact h
  | cons part r ih =>
      unfold walk at h ⊢
      split at h
      · rename_i hhere
        have hne : here ≠ place := by
          rintro rfl
          exact hplace hhere
        rw [node?_put_of_ne hne, hhere]
        split at h
        · cases h
        · rename_i hlong
          simp only [if_neg hlong]
          exact ih h
      · cases h
      · cases h

/-- What a file that was written is written over, and where. -/
theorem write_eq_ok {tree after : Tree} {path : Path} {content : ByteArray}
    (h : tree.write path content = .ok after) :
    pathFault? path.text = none ∧ endsInSlash path.text = false ∧
      tree.walk path.start (innerParts path.text) = .ok path.names ∧
      tree.node? path.names ≠ some .directory ∧
      after = tree.put path.names (.file content) := by
  unfold write at h
  cases hfault : pathFault? path.text with
  | some fault =>
      rw [hfault] at h
      cases h
  | none =>
      cases hwalk : tree.walk path.start (innerParts path.text) with
      | error fault =>
          rw [hfault, hwalk] at h
          cases h
      | ok there =>
          have hthere : there = path.names := by
            rw [← names_of_walk hwalk, foldl_enter_innerParts]
          subst hthere
          rw [hfault, hwalk] at h
          simp only [bind, Except.bind] at h
          split at h
          · cases h
          · rename_i hnode
            split at h
            · cases h
            · rename_i hslash
              cases h
              exact ⟨rfl, by simpa using hslash, rfl, hnode, rfl⟩

/-- **A file that was written is found with its content.** -/
theorem find_of_write {tree after : Tree} {path : Path} {content : ByteArray}
    (h : tree.write path content = .ok after) : after.find path = .ok (.file content) := by
  obtain ⟨hfault, hslash, hwalk, hnode, rfl⟩ := write_eq_ok h
  have htext : path.text.isEmpty = false := by
    cases hempty : path.text.isEmpty with
    | false => rfl
    | true =>
        simp only [pathFault?, hempty] at hfault
        split at hfault <;> cases hfault
  -- the root cannot be written to
  have htop : path.names ≠ [] := by
    intro htop
    rw [htop] at hnode
    exact hnode (node?_nil tree)
  rw [innerParts_eq_parts htext hslash] at hwalk
  unfold find
  rw [hfault, walk_put hnode hwalk]
  simp only [bind, Except.bind, node?_put_self htop]

/-- What is left in place for a text in a file: the file, and the directories that its own stands
in. -/
inductive Placed (path : Path) (text : String) : Names → Option Node → Prop
  | file : Placed path text path.names (some (.file text.toUTF8))
  | above {parent : Path} {place : Names} (hparent : path.parent? = some parent)
      (hplace : Passes parent place) : Placed path text place (some .directory)

theorem changes_write {tree after : Tree} {path : Path} {text : String}
    (h : tree.write path text.toUTF8 = .ok after) : Changes (Placed path text) tree after := by
  obtain ⟨-, -, -, hfile, rfl⟩ := write_eq_ok h
  exact changes_put .file hfile nofun

/-! ## The settings file -/

/-- Saving changes nothing but the file and what it stands in. -/
theorem changes_save (tree : Tree) (path : Path) (s : Settings) :
    Changes (Placed path s.text) tree (Settings.save tree path s).2 := by
  have hmade : Changes (Placed path s.text) tree
      (tree.createDirectories (path.parent?.getD "")).2 := by
    cases hparent : path.parent? with
    | none => exact changes_refl _ tree
    | some parent =>
        apply (changes_createDirectories tree parent).mono
        rintro place node ⟨hplace, rfl⟩
        exact .above hparent hplace
  unfold Settings.save
  split
  · rename_i heq
    rw [heq] at hmade
    exact hmade
  · rename_i heq
    rw [heq] at hmade
    split
    · exact hmade
    · rename_i hwrite
      exact hmade.trans (changes_write hwrite)

/-- Whether a settings file is missing or blank. -/
def HasNoSettings (tree : Tree) (path : Path) : Prop :=
  tree.contains path = false ∨ ∃ raw, tree.readText path = .ok raw ∧ Text.isBlank raw = true

end Tree

end VideoSurvey.Files
