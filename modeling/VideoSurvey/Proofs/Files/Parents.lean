import VideoSurvey.Proofs.Files.Changes
import VideoSurvey.Proofs.Results

/-!
# The directory that a path stands in

The parent of a path is found by its characters, and a path is followed by its parts. The two agree:
the parts of the parent come first among those of the path (`parent?_cases`). So where something
stands under a path, the directories above it are there and none is made
(`createDirectories_parent`), and a file that is there can be written over (`write_of_find`).
-/

set_option autoImplicit false

namespace VideoSurvey.Files

/-! ## Parents by their characters -/

/-- Slashes are dropped up to one of them, which keeps what is dropped from what is left. -/
theorem dropSlashes_cases (s : List Char) :
    dropSlashes s = s ∧ s.head? ≠ some '/' ∨ ∃ front, s = front ++ '/' :: dropSlashes s := by
  induction s using dropSlashes.induct with
  | case1 => exact .inl ⟨rfl, by decide⟩
  | case2 r ih =>
      right
      rw [dropSlashes]
      rcases ih with ⟨hself, -⟩ | ⟨front, hfront⟩
      · exact ⟨[], by rw [hself, List.nil_append]⟩
      · exact ⟨'/' :: front, congrArg ('/' :: ·) hfront⟩
  | case3 r ih =>
      right
      rw [dropSlashes]
      rcases ih with ⟨-, hhead⟩ | ⟨front, hfront⟩
      · exact absurd rfl hhead
      · exact ⟨'.' :: front, congrArg ('.' :: ·) hfront⟩
  | case4 s hnil hslash hdot =>
      left
      constructor
      · rw [dropSlashes]
        · exact hnil
        · exact hslash
        · exact hdot
      · intro hhead
        obtain ⟨r, rfl⟩ : ∃ r, s = '/' :: r := by
          cases s with
          | nil => cases hhead
          | cons c r => exact ⟨r, by rw [Option.some.inj hhead]⟩
        exact hslash r rfl

/-- **A path goes on behind its parent with a slash,** unless the parent is where the path
starts. -/
theorem parent?_cases {path parent : String} (h : parent? path = some parent) :
    parent = "" ∨ parent = "/" ∨
      parent ≠ "" ∧ ∃ rest, path.toList = parent.toList ++ '/' :: rest := by
  simp only [parent?] at h
  obtain ⟨last, hlast⟩ : ∃ last, path.toList.reverse = last ++ dropSlashes path.toList.reverse := by
    rcases dropSlashes_cases path.toList.reverse with ⟨hself, -⟩ | ⟨front, hfront⟩
    · exact ⟨[], by rw [hself, List.nil_append]⟩
    · exact ⟨front ++ ['/'], by rw [List.append_assoc]; exact hfront⟩
  generalize dropSlashes path.toList.reverse = body at h hlast
  have hbody := List.takeWhile_append_dropWhile (p := (· ≠ '/')) (l := body)
  have hhead := List.head?_dropWhile_not (· ≠ '/') body
  generalize body.takeWhile (· ≠ '/') = name at hbody
  generalize body.dropWhile (· ≠ '/') = above at h hbody hhead
  split at h
  · cases h
  · cases above with
    | nil =>
        -- there is no slash at all
        left
        obtain rfl := Option.some.inj h
        rfl
    | cons c r =>
        obtain rfl : c = '/' := by simpa using hhead
        rcases dropSlashes_cases ('/' :: r) with ⟨-, hne⟩ | ⟨front, hfront⟩
        · exact absurd rfl hne
        · right
          generalize dropSlashes ('/' :: r) = above' at h hfront
          split at h
          · exact .inl (Option.some.inj h).symm
          · rename_i hrest
            obtain rfl := Option.some.inj h
            have hne : above' ≠ [] := by
              rintro rfl
              exact hrest rfl
            right
            constructor
            · intro hempty
              apply hne
              simpa using congrArg String.toList hempty
            · refine ⟨(last ++ name ++ front).reverse, ?_⟩
              have hpath : path.toList = (last ++ name ++ front ++ '/' :: above').reverse := by
                rw [← List.reverse_reverse path.toList, hlast, ← hbody, hfront]
                simp only [List.append_assoc]
              rw [hpath, String.toList_ofList]
              simp

theorem parts_append {path front : String} {rest : List Char}
    (h : path.toList = front.toList ++ '/' :: rest) :
    parts path = parts front ++ (Text.stretches '/' rest).map String.ofList := by
  rw [parts, h, Text.stretches_append_cons, List.map_append]
  rfl

namespace Tree

/-! ## Following a path -/

section Walking

variable {tree : Tree} {here there : Names} {part : String} {front rest : List String}

theorem walk_cons (h : tree.walk here (part :: rest) = .ok there) :
    tree.node? here = some .directory ∧ tree.walk (enter here part) rest = .ok there := by
  rw [walk] at h
  split at h
  · rename_i hhere
    split at h
    · cases h
    · exact ⟨hhere, h⟩
  · cases h
  · cases h

theorem walk_append (h : tree.walk here (front ++ rest) = .ok there) :
    ∃ between, tree.walk here front = .ok between ∧ tree.walk between rest = .ok there := by
  induction front generalizing here with
  | nil => exact ⟨here, rfl, h⟩
  | cons part front ih =>
      rw [List.cons_append, walk] at h
      rw [walk]
      split at h
      · split at h
        · cases h
        · rename_i hlong
          rw [if_neg hlong]
          exact ih h
      · cases h
      · cases h

/-- No directory is made along parts that can be gone through. -/
theorem makeDirectories_of_walk (h : tree.walk here (front ++ part :: rest) = .ok there) :
    tree.makeDirectories here front = (.ok (), tree) := by
  induction front generalizing here with
  | nil => rfl
  | cons first front ih =>
      obtain ⟨-, hnext⟩ := walk_cons h
      -- the way goes on from the next place, so it is a directory
      have hdirectory : tree.node? (enter here first) = some .directory := by
        cases front with
        | nil => exact (walk_cons hnext).1
        | cons second front => exact (walk_cons hnext).1
      rw [makeDirectories]
      simp only [hdirectory]
      exact ih hnext

end Walking

section Finding

variable {tree : Tree} {path : Path} {node : Node}

theorem find_eq_ok (h : tree.find path = .ok node) :
    pathFault? path.text = none ∧ tree.walk path.start (parts path.text) = .ok path.names ∧
      tree.node? path.names = some node := by
  rw [find] at h
  split at h
  · cases h
  · rename_i hfault
    obtain ⟨there, hwalk, h⟩ := Results.bind_eq_ok.1 h
    have hthere : there = path.names := (names_of_walk hwalk).symm
    subst hthere
    split at h
    · rename_i hnode
      cases h
      exact ⟨hfault, hwalk, hnode⟩
    · cases h

theorem pathFault?_eq_none {text : String} : pathFault? text = none ↔
    '\x00' ∉ text.toList ∧ text ≠ "" ∧ text.utf8ByteSize ≤ longestPath := by
  rw [pathFault?]
  split
  · rename_i hnul
    simp_all
  · rename_i hnul
    split
    · rename_i hempty
      simp_all [String.isEmpty_iff]
    · rename_i hempty
      split
      · rename_i hlong
        simp_all
      · rename_i hlong
        simp_all [String.isEmpty_iff]

/-- A path goes on behind its parent, which has no fault when the path has none. -/
theorem pathFault?_of_append {text parent : String} {rest : List Char}
    (hrest : text.toList = parent.toList ++ '/' :: rest) (hne : parent ≠ "")
    (h : pathFault? text = none) : pathFault? parent = none := by
  obtain ⟨hnul, -, hlong⟩ := pathFault?_eq_none.1 h
  refine pathFault?_eq_none.2 ⟨?_, hne, ?_⟩
  · intro hmem
    apply hnul
    rw [hrest]
    exact List.mem_append_left _ hmem
  · have htext : text = parent ++ String.ofList ('/' :: rest) := by
      rw [← String.toList_inj, String.toList_append, String.toList_ofList, hrest]
    rw [htext, String.utf8ByteSize_append] at hlong
    omega

/-- **Where something stands, the directories above it are there.** -/
theorem createDirectories_parent (h : tree.find path = .ok node) :
    tree.createDirectories (path.parent?.getD "") = (.ok (), tree) := by
  obtain ⟨hfault, hwalk, -⟩ := find_eq_ok h
  cases hparent : parent? path.text with
  | none =>
      rw [Path.parent?, hparent]
      rfl
  | some parent =>
      rw [Path.parent?, hparent]
      rcases parent?_cases hparent with rfl | rfl | ⟨hne, rest, hrest⟩
      · rfl
      · -- the root of all files has no parts
        have hroot : Path.start ⟨path.base, "/"⟩ = [] :=
          if_pos (show isAbsolute "/" = true by decide)
        simp only [Option.map_some, Option.getD_some, createDirectories, hroot, node?_nil]
        rfl
      · have hparts := parts_append hrest
        obtain ⟨part, more, hmore⟩ : ∃ part more,
            (Text.stretches '/' rest).map String.ofList = part :: more := by
          apply List.exists_cons_of_ne_nil
          intro hnil
          exact Text.stretches_ne_nil '/' rest (List.map_eq_nil_iff.1 hnil)
        obtain ⟨dropped, hdropped⟩ : innerParts parent <+: parts parent := by
          rw [innerParts_eq]
          exact List.rdropWhile_prefix _ _
        have hstart : Path.start ⟨path.base, parent⟩ = path.start := by
          obtain ⟨c, s, hs⟩ := List.exists_cons_of_ne_nil
            (show parent.toList ≠ [] from fun hnil => hne (String.toList_eq_nil_iff.1 hnil))
          rw [Path.start, Path.start, isAbsolute, isAbsolute, hrest, hs]
          rfl
        have hempty : parent.isEmpty = false := by
          rw [Bool.eq_false_iff, Ne, String.isEmpty_iff]
          exact hne
        rw [hparts, hmore, ← hdropped, List.append_assoc] at hwalk
        -- the first part was gone through from a directory
        have hdirectory : tree.node? path.start = some .directory := by
          cases hinner : innerParts parent with
          | nil =>
              rw [hinner] at hwalk
              cases dropped with
              | nil => exact (walk_cons hwalk).1
              | cons first dropped => exact (walk_cons hwalk).1
          | cons first inner =>
              rw [hinner] at hwalk
              exact (walk_cons hwalk).1
        simp only [Option.map_some, Option.getD_some, createDirectories, hempty,
          pathFault?_of_append hrest hne hfault, hstart, hdirectory]
        cases dropped with
        | nil => exact makeDirectories_of_walk hwalk
        | cons first dropped => exact makeDirectories_of_walk hwalk

/-- What stands under a path that ends with a slash is a directory. -/
theorem endsInSlash_of_find (h : tree.find path = .ok node) (hnode : node ≠ .directory) :
    endsInSlash path.text = false := by
  obtain ⟨-, hwalk, hplace⟩ := find_eq_ok h
  rw [Bool.eq_false_iff]
  intro hslash
  obtain ⟨s, hs⟩ : ∃ s, path.text.toList = (String.ofList s).toList ++ '/' :: [] := by
    obtain ⟨s, hs⟩ := List.getLast?_eq_some_iff.1 (of_decide_eq_true hslash)
    exact ⟨s, by rw [hs, String.toList_ofList]⟩
  rw [parts_append hs] at hwalk
  obtain ⟨between, -, hlast⟩ := walk_append hwalk
  -- the empty part behind the slash stays where it is
  obtain ⟨hdirectory, hthere⟩ := walk_cons hlast
  cases hthere
  apply hnode
  exact Option.some.inj (hplace.symm.trans hdirectory)

/-- **A file that is there can be written over.** -/
theorem write_of_find {content : ByteArray} (h : tree.find path = .ok (.file content))
    (text : ByteArray) :
    tree.write path text = .ok (tree.put path.names (.file text)) := by
  obtain ⟨hfault, hwalk, hnode⟩ := find_eq_ok h
  have hslash : endsInSlash path.text = false := endsInSlash_of_find h (by rintro ⟨⟩)
  have hempty : path.text.isEmpty = false := by
    obtain ⟨-, hne, -⟩ := pathFault?_eq_none.1 hfault
    rw [Bool.eq_false_iff, Ne, String.isEmpty_iff]
    exact hne
  rw [← innerParts_eq_parts hempty hslash] at hwalk
  simp only [write, hfault, hwalk, bind, Except.bind, hnode, hslash]
  rfl

end Finding

end Tree

end VideoSurvey.Files
