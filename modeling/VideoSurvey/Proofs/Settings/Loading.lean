import VideoSurvey.Proofs.Files.Parents
import VideoSurvey.Proofs.Settings.Codec

/-!
# Loading and saving settings

Settings that were saved are loaded again as they are, and what was loaded once is loaded again
without a change (`load_of_save`, `load_again`). A load takes one of three ways: a file with a text
is read and left alone, a blank file always gets the text of the default settings, and a missing
one gets it where it can be made (`load_and_save`).

Not every missing file can be made: what stands above it may be a file, and its path may end with a
slash or go through a name that is too long. The load fails there, and no text is left.
-/

set_option autoImplicit false

namespace VideoSurvey.Settings

open Files (Names Passes Path Tree)
open Files.Tree (Changes Placed changes_createDirectories changes_refl changes_save
  createDirectories_parent find_of_write write_of_find)

variable {tree after : Tree} {path : Path} {raw : String} {s : Settings}

/-! ## What a file holds -/

theorem readText_of_find {text : String} (h : tree.find path = .ok (.file text.toUTF8)) :
    tree.readText path = .ok text := by
  have hvalid : String.fromUTF8? text.toUTF8 = some text := by
    rw [String.fromUTF8?, String.toUTF8_eq_toByteArray, dif_pos text.isValidUTF8]
    rfl
  rw [Tree.readText, h]
  simp only [hvalid]

/-- A text is read from a file that is there. -/
theorem find_of_readText (h : tree.readText path = .ok raw) :
    ∃ content, tree.find path = .ok (.file content) := by
  rw [Tree.readText] at h
  split at h
  · cases h
  · cases h
  · cases h
  · rename_i content hfind
    exact ⟨content, hfind⟩

theorem contains_of_readText (h : tree.readText path = .ok raw) : tree.contains path = true := by
  obtain ⟨content, hfind⟩ := find_of_readText h
  rw [Tree.contains, hfind]
  rfl

/-! ## Saving -/

theorem save_eq_ok (h : save tree path s = (.ok (), after)) :
    ∃ made, tree.createDirectories (path.parent?.getD "") = (.ok (), made) ∧
      made.write path s.text.toUTF8 = .ok after := by
  rw [save] at h
  split at h
  · cases h
  · rename_i made hmade
    split at h
    · cases h
    · rename_i hwrite
      cases h
      exact ⟨made, hmade, hwrite⟩

theorem readText_of_save (h : save tree path s = (.ok (), after)) :
    after.readText path = .ok s.text := by
  obtain ⟨made, -, hwrite⟩ := save_eq_ok h
  exact readText_of_find (find_of_write hwrite)

/-- The settings of a file whose text is read can be saved. -/
theorem save_of_readText (h : tree.readText path = .ok raw) (s : Settings) :
    ∃ after, save tree path s = (.ok (), after) := by
  obtain ⟨content, hfind⟩ := find_of_readText h
  refine ⟨tree.put path.names (.file s.text.toUTF8), ?_⟩
  rw [save, createDirectories_parent hfind]
  simp only [write_of_find hfind]

/-- A save that fails has made directories above the file at most. -/
theorem changes_of_save_error {fault : SettingsFault}
    (h : save tree path s = (.error fault, after)) :
    Changes (fun place node => (∃ parent, path.parent? = some parent ∧ Passes parent place) ∧
      node = some .directory) tree after := by
  have hmade : Changes (fun place node =>
      (∃ parent, path.parent? = some parent ∧ Passes parent place) ∧ node = some .directory)
      tree (tree.createDirectories (path.parent?.getD "")).2 := by
    cases hparent : path.parent? with
    | none => exact changes_refl _ tree
    | some parent =>
        apply (changes_createDirectories tree parent).mono
        rintro place node ⟨hplace, rfl⟩
        exact ⟨⟨parent, rfl, hplace⟩, rfl⟩
  rw [save] at h
  split at h
  · rename_i heq
    cases h
    rw [heq] at hmade
    exact hmade
  · rename_i heq
    rw [heq] at hmade
    split at h
    · cases h
      exact hmade
    · cases h

theorem saveStandard_of_save (h : save tree path standard = (.ok (), after)) :
    saveStandard tree path = (.ok standard, after) := by
  rw [saveStandard, h]
  rfl

theorem saveStandard_eq_ok (h : saveStandard tree path = (.ok s, after)) :
    s = standard ∧ save tree path standard = (.ok (), after) := by
  rw [saveStandard] at h
  rcases hsave : save tree path standard with ⟨fault | ⟨⟩, after'⟩
  · rw [hsave] at h
    cases h
  · rw [hsave] at h
    cases h
    exact ⟨rfl, rfl⟩

/-! ## The ways of a load -/

theorem load_of_hasNoSettings (h : tree.HasNoSettings path) :
    load tree path = saveStandard tree path := by
  rcases h with hmissing | ⟨raw, hraw, hblank⟩
  · rw [load, hmissing]
    rfl
  · simp only [load, contains_of_readText hraw, hraw, hblank]
    rfl

theorem load_of_readText (h : tree.readText path = .ok raw) (hblank : Text.isBlank raw = false)
    (hs : ofText raw = .ok s) : load tree path = (.ok s, tree) := by
  simp only [load, contains_of_readText h, h, hblank, hs]
  rfl

/-- A load that gives settings has read them or written the default ones. -/
theorem load_eq_ok (h : load tree path = (.ok s, after)) :
    (∃ raw, tree.readText path = .ok raw ∧ Text.isBlank raw = false ∧ ofText raw = .ok s ∧
        after = tree) ∨
      s = standard ∧ save tree path standard = (.ok (), after) := by
  rw [load] at h
  split at h
  · exact .inr (saveStandard_eq_ok h)
  · split at h
    · cases h
    · rename_i raw hraw
      split at h
      · exact .inr (saveStandard_eq_ok h)
      · rename_i hblank
        split at h
        · rename_i hs
          cases h
          exact .inl ⟨raw, hraw, by simpa using hblank, hs, rfl⟩
        · cases h

/-- **Settings that were saved are loaded as they are.** -/
theorem load_of_save (hs : s.transitionDelayMs ≤ 18446744073709551615)
    (h : save tree path s = (.ok (), after)) : load after path = (.ok s, after) :=
  load_of_readText (readText_of_save h) s.isBlank_text (ofText_text hs)

/-- **What was loaded once is loaded again, without a change.** -/
theorem load_again (h : load tree path = (.ok s, after)) : load after path = (.ok s, after) := by
  rcases load_eq_ok h with ⟨raw, hraw, hblank, hs, rfl⟩ | ⟨rfl, hsave⟩
  · exact load_of_readText hraw hblank hs
  · exact load_of_save (by decide) hsave

/-- A load leaves alone whatever stands under the path, unless that is a blank text. -/
theorem load_keeps (hcontains : tree.contains path = true)
    (htext : ∀ raw, tree.readText path = .ok raw → Text.isBlank raw = false) :
    (load tree path).2 = tree := by
  simp only [load, hcontains]
  cases hraw : tree.readText path with
  | error fault => rfl
  | ok raw =>
      simp only [htext raw hraw]
      cases ofText raw with
      | error error => rfl
      | ok s => rfl

/-- **A load of a blank file leaves there the text of the default settings.** -/
theorem load_of_blank (h : tree.readText path = .ok raw) (hblank : Text.isBlank raw = true) :
    ∃ after, load tree path = (.ok standard, after) ∧
      after.readText path = .ok standard.text := by
  obtain ⟨after, hsave⟩ := save_of_readText h standard
  refine ⟨after, ?_, readText_of_save hsave⟩
  rw [load_of_hasNoSettings (.inr ⟨raw, h, hblank⟩)]
  exact saveStandard_of_save hsave

/-- A load of a missing file leaves there the text of the default settings, or it fails because they
cannot be saved there, and has made directories above the file at most. -/
theorem load_of_missing (h : tree.contains path = false) :
    (∃ after, load tree path = (.ok standard, after) ∧
        after.readText path = .ok standard.text) ∨
      ∃ fault after, save tree path standard = (.error fault, after) ∧
        load tree path = (.error fault, after) ∧
        Changes (fun place node => (∃ parent, path.parent? = some parent ∧ Passes parent place) ∧
          node = some .directory) tree after := by
  rw [load_of_hasNoSettings (.inl h)]
  rcases hsave : save tree path standard with ⟨fault | ⟨⟩, after⟩
  · refine .inr ⟨fault, after, rfl, ?_, changes_of_save_error hsave⟩
    rw [saveStandard, hsave]
    rfl
  · exact .inl ⟨after, saveStandard_of_save hsave, readText_of_save hsave⟩

/-- **Loads and saves agree.** What was saved is loaded again, and the save has changed nothing but
the file and what it stands in. A second load gives the same as the first and changes nothing. A
file with a text is never written to by a load, a blank one gets the text of the default settings,
and a missing one gets it where it can be saved; elsewhere only directories above it are made. -/
theorem load_and_save (tree : Tree) (path : Path) :
    (∀ s after, s.transitionDelayMs ≤ 18446744073709551615 →
      save tree path s = (.ok (), after) →
        load after path = (.ok s, after) ∧ Changes (Placed path s.text) tree after) ∧
    (∀ s after, load tree path = (.ok s, after) → load after path = (.ok s, after)) ∧
    (tree.contains path = true →
      (∀ raw, tree.readText path = .ok raw → Text.isBlank raw = false) →
        (load tree path).2 = tree) ∧
    (∀ raw, tree.readText path = .ok raw → Text.isBlank raw = true →
      ∃ after, load tree path = (.ok standard, after) ∧
        after.readText path = .ok standard.text) ∧
    (tree.contains path = false →
      (∃ after, load tree path = (.ok standard, after) ∧
          after.readText path = .ok standard.text) ∨
        ∃ fault after, save tree path standard = (.error fault, after) ∧
          load tree path = (.error fault, after) ∧
          Changes (fun place node => (∃ parent, path.parent? = some parent ∧ Passes parent place) ∧
            node = some .directory) tree after) := by
  refine ⟨?_, fun s after => load_again, load_keeps, fun raw => load_of_blank, load_of_missing⟩
  intro s after hs hsave
  have hchanges := changes_save tree path s
  rw [hsave] at hchanges
  exact ⟨load_of_save hs hsave, hchanges⟩

/-- A slow generator is set up beside a blank file and one that holds no settings. -/
theorem load_and_save_beside_others :
    let s : Settings := { standard with transitionDelayMs := 750 }
    let tree : Tree := [(["b.json"], .file " \n".toUTF8), (["t.json"], .file "x".toUTF8)]
    let saved := (save tree "d/s.json" s).2
    load saved "d/s.json" = (.ok s, saved) ∧
      saved.node? ["b.json"] = some (.file " \n".toUTF8) ∧
      (load tree "t.json").2 = tree ∧
      (∃ after, load tree "b.json" = (.ok standard, after) ∧
        load after "b.json" = (.ok standard, after)) ∧
      ∃ after, load tree "d/n.json" = (.ok standard, after) := by
  intro s tree saved
  have hsave : save tree "d/s.json" s = (.ok (), saved) := rfl
  have htext : tree.readText "t.json" = .ok "x" := rfl
  have hblank : tree.readText "b.json" = .ok " \n" := rfl
  have hmade : (load tree "d/n.json").1.isOk = true := rfl
  obtain ⟨hload, hchanges⟩ := (load_and_save tree "d/s.json").1 s saved (by decide) hsave
  obtain ⟨after, hfirst, -⟩ := (load_and_save tree "b.json").2.2.2.1 _ hblank (by decide +kernel)
  refine ⟨hload, ?_, ?_, ⟨after, hfirst, ?_⟩, ?_⟩
  · refine hchanges.node?_eq rfl ?_
    intro node hnode
    generalize hplace : (["b.json"] : Names) = place at hnode
    cases hnode with
    | file => exact absurd hplace (by decide +kernel)
    | above => rfl
  · refine (load_and_save tree "t.json").2.2.1 rfl ?_
    intro raw hraw
    cases htext.symm.trans hraw
    decide +kernel
  · exact (load_and_save tree "b.json").2.1 _ _ hfirst
  · rcases (load_and_save tree "d/n.json").2.2.2.2 rfl with ⟨made, hdone, -⟩ | ⟨_, _, -, hfault, -⟩
    · exact ⟨made, hdone⟩
    · rw [hfault] at hmade
      cases hmade

/-- Under a file nothing can be made, so the load of a missing file leaves nothing there. -/
theorem not_standard_of_missing :
    ¬ ∀ (tree : Tree) (path : Path), tree.contains path = false →
      (load tree path).2.readText path = .ok standard.text := by
  intro h
  let tree : Tree := [(["a"], .file "x".toUTF8)]
  have htext := h tree "a/b" (by decide +kernel)
  have hfault : ((load tree "a/b").2.readText "a/b").isOk = false := by decide +kernel
  rw [htext] at hfault
  cases hfault

end VideoSurvey.Settings
