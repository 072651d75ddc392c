import VideoSurvey.Command.Parser
import VideoSurvey.Proofs.Results

/-!
# The grammar of command lines

The grammar says what a command line is without reading it from left to right: behind the name of
a command stand its arguments in order, interleaved with output flags and their values
(`Interleaves`), and only the commands that write a document have such flags (`Line`). The reader
accepts exactly these lines (`parse_eq_ok_iff_line`), so a flag may stand anywhere, its value may
be any text, and of several flags the last counts.
-/

set_option autoImplicit false

namespace VideoSurvey

open Results (bind_eq_ok)

/-! ## Arguments and flags -/

theorem isFlag_eq_false_iff {argument : String} :
    isFlag argument = false ↔ ¬ "--".toList <+: argument.toList := by
  unfold isFlag
  split
  · rename_i r h
    simp [h]
  · rename_i hne
    constructor
    · rintro - ⟨r, hr⟩
      exact hne r hr.symm
    · intro _
      rfl

/-- The third list interleaves the first, which are arguments, with output flags that have the
second as their values. -/
inductive Interleaves : List String → List String → List String → Prop
  | nil : Interleaves [] [] []
  | argument {argument : String} {positional values line : List String}
      (hflag : ¬ "--".toList <+: argument.toList) (h : Interleaves positional values line) :
      Interleaves (argument :: positional) values (argument :: line)
  | out {value : String} {positional values line : List String}
      (h : Interleaves positional values line) :
      Interleaves positional (value :: values) ("--out" :: value :: line)

namespace Arguments

theorem split_argument {argument : String} (hflag : isFlag argument = false)
    (line : List String) :
    split (argument :: line) = (do
      let found ← split line
      .ok { found with positional := argument :: found.positional }) := by
  have hout : argument ≠ "--out" := by
    rintro rfl
    cases hflag
  rw [split.eq_4 _ _ (fun h _ => hout h) (fun _ _ h _ => hout h), hflag]
  rfl

/-- **The arguments and the last value of any interleaving are found.** -/
theorem split_of_interleaves {positional values line : List String}
    (h : Interleaves positional values line) :
    split line = .ok ⟨positional, values.getLast?⟩ := by
  induction h with
  | nil => rfl
  | argument hflag _ ih =>
      rw [split_argument (isFlag_eq_false_iff.2 hflag), ih]
      rfl
  | out _ ih =>
      rw [split, ih, List.getLast?_cons]
      rfl

/-- **What is found interleaves to the line.** -/
theorem interleaves_of_split {line : List String} {found : Arguments}
    (h : split line = .ok found) :
    ∃ values, Interleaves found.positional values line ∧ found.out = values.getLast? := by
  fun_induction split line generalizing found with
  | case1 =>
      cases h
      exact ⟨[], .nil, rfl⟩
  | case2 => cases h
  | case3 value line ih =>
      obtain ⟨rest, hrest, h⟩ := bind_eq_ok.1 h
      cases h
      obtain ⟨values, hvalues, hout⟩ := ih hrest
      refine ⟨value :: values, .out hvalues, ?_⟩
      rw [List.getLast?_cons, hout]
  | case4 => cases h
  | case5 argument line _ _ hflag ih =>
      obtain ⟨rest, hrest, h⟩ := bind_eq_ok.1 h
      cases h
      obtain ⟨values, hvalues, hout⟩ := ih hrest
      exact ⟨values, .argument (isFlag_eq_false_iff.1 (Bool.eq_false_iff.2 hflag)) hvalues,
        hout⟩

end Arguments

namespace Command

/-! ## Commands -/

section Checks

variable {command what : String} {found : Arguments}

theorem refuseMore_eq_ok {count : Nat} {u : Unit} :
    refuseMore command count found = .ok u ↔ found.positional.length ≤ count := by
  unfold refuseMore
  rw [← List.drop_eq_nil_iff]
  cases found.positional.drop count with
  | nil => exact ⟨fun _ => rfl, fun _ => rfl⟩
  | cons argument r =>
      constructor
      · rintro ⟨⟩
      · rintro ⟨⟩

theorem refuseOut_eq_ok {u : Unit} : refuseOut command found = .ok u ↔ found.out = none := by
  unfold refuseOut
  cases found.out with
  | none => exact ⟨fun _ => rfl, fun _ => rfl⟩
  | some value =>
      constructor
      · rintro ⟨⟩
      · rintro ⟨⟩

theorem take_eq_ok {index : Nat} {argument : String} :
    take command what index found = .ok argument ↔ found.positional[index]? = some argument := by
  unfold take
  cases found.positional[index]? with
  | none =>
      constructor
      · rintro ⟨⟩
      · rintro ⟨⟩
  | some a =>
      constructor
      · rintro ⟨⟩
        rfl
      · rintro ⟨⟩
        rfl

theorem one_argument {argument : String} {u : Unit} (hmore : refuseMore command 1 found = .ok u)
    (htake : take command what 0 found = .ok argument) : found.positional = [argument] := by
  have hlength := refuseMore_eq_ok.1 hmore
  have hfirst := take_eq_ok.1 htake
  obtain ⟨argument', hone⟩ := List.length_eq_one_iff.1
    (Nat.le_antisymm hlength (List.getElem?_eq_some_iff.1 hfirst).1)
  rw [hone] at hfirst ⊢
  cases hfirst
  rfl

theorem two_arguments {what' argument argument' : String} {u : Unit}
    (hmore : refuseMore command 2 found = .ok u)
    (htake : take command what 0 found = .ok argument)
    (htake' : take command what' 1 found = .ok argument') :
    found.positional = [argument, argument'] := by
  have hlength := refuseMore_eq_ok.1 hmore
  have hfirst := take_eq_ok.1 htake
  have hsecond := take_eq_ok.1 htake'
  obtain ⟨a, b, htwo⟩ := List.length_eq_two.1
    (Nat.le_antisymm hlength (List.getElem?_eq_some_iff.1 hsecond).1)
  rw [htwo] at hfirst hsecond ⊢
  cases hfirst
  cases hsecond
  rfl

/-- A command with one argument and no output path. -/
theorem of_argument {make : String → Command} {c : Command}
    (h : (do
      refuseMore command 1 found
      refuseOut command found
      let argument ← take command what 0 found
      .ok (make argument)) = .ok c) :
    found.out = none ∧ ∃ argument, found.positional = [argument] ∧ c = make argument := by
  obtain ⟨_, hmore, h⟩ := bind_eq_ok.1 h
  obtain ⟨_, hout, h⟩ := bind_eq_ok.1 h
  obtain ⟨argument, htake, h⟩ := bind_eq_ok.1 h
  cases h
  exact ⟨refuseOut_eq_ok.1 hout, argument, one_argument hmore htake, rfl⟩

/-- A command with one argument that may have an output path. -/
theorem of_argument_out {make : String → Option String → Command} {c : Command}
    (h : (do
      refuseMore command 1 found
      let argument ← take command what 0 found
      .ok (make argument found.out)) = .ok c) :
    ∃ argument, found.positional = [argument] ∧ c = make argument found.out := by
  obtain ⟨_, hmore, h⟩ := bind_eq_ok.1 h
  obtain ⟨argument, htake, h⟩ := bind_eq_ok.1 h
  cases h
  exact ⟨argument, one_argument hmore htake, rfl⟩

end Checks

/-- The lines of each command. Only a command that writes a document has output flags, and the last
of them counts. -/
inductive Line : List String → Command → Prop
  | compile {file : String} {values rest : List String} (h : Interleaves [file] values rest) :
      Line ("compile" :: rest) (.compile file values.getLast?)
  | create {file : String} {rest : List String} (h : Interleaves [file] [] rest) :
      Line ("create" :: rest) (.create file)
  | get {id : String} {rest : List String} (h : Interleaves [id] [] rest) :
      Line ("get" :: rest) (.get id)
  | list {rest : List String} (h : Interleaves [] [] rest) :
      Line ("list" :: rest) .list
  | update {id file : String} {rest : List String} (h : Interleaves [id, file] [] rest) :
      Line ("update" :: rest) (.update id file)
  | delete {id : String} {rest : List String} (h : Interleaves [id] [] rest) :
      Line ("delete" :: rest) (.delete id)
  | generate {id : String} {values rest : List String} (h : Interleaves [id] values rest) :
      Line ("generate" :: rest) (.generate id values.getLast?)

/-- A command that takes its arguments is written with them. -/
theorem line_of_ofArguments {name : String} {values rest : List String} {found : Arguments}
    {c : Command} (hrest : Interleaves found.positional values rest)
    (hout : found.out = values.getLast?) (h : ofArguments name found = .ok c) :
    Line (name :: rest) c := by
  have hnone (hfound : found.out = none) : values = [] :=
    List.getLast?_eq_none_iff.1 (hout.symm.trans hfound)
  unfold ofArguments at h
  -- a case for each command, in the order of `Line`, then the names that ask for help and the rest
  split at h
  · obtain ⟨file, hfile, rfl⟩ := of_argument_out h
    rw [hout]
    exact .compile (hfile ▸ hrest)
  · obtain ⟨hfound, file, hfile, rfl⟩ := of_argument h
    exact .create (hfile ▸ hnone hfound ▸ hrest)
  · obtain ⟨hfound, id, hid, rfl⟩ := of_argument h
    exact .get (hid ▸ hnone hfound ▸ hrest)
  · obtain ⟨_, hmore, h⟩ := bind_eq_ok.1 h
    obtain ⟨_, hfound, h⟩ := bind_eq_ok.1 h
    cases h
    have hempty := List.length_eq_zero_iff.1 (Nat.le_zero.1 (refuseMore_eq_ok.1 hmore))
    rw [hempty, hnone (refuseOut_eq_ok.1 hfound)] at hrest
    exact .list hrest
  · obtain ⟨_, hmore, h⟩ := bind_eq_ok.1 h
    obtain ⟨_, hfound, h⟩ := bind_eq_ok.1 h
    obtain ⟨id, hid, h⟩ := bind_eq_ok.1 h
    obtain ⟨file, hfile, h⟩ := bind_eq_ok.1 h
    cases h
    rw [two_arguments hmore hid hfile, hnone (refuseOut_eq_ok.1 hfound)] at hrest
    exact .update hrest
  · obtain ⟨hfound, id, hid, rfl⟩ := of_argument h
    exact .delete (hid ▸ hnone hfound ▸ hrest)
  · obtain ⟨id, hid, rfl⟩ := of_argument_out h
    rw [hout]
    exact .generate (hid ▸ hrest)
  · cases h
  · cases h
  · cases h
  · cases h

/-- A line of the grammar is read as its command. -/
theorem parse_of_line {args : List String} {c : Command} (h : Line args c) :
    parse args = .ok c := by
  cases h with
  | compile h => rw [parse, Arguments.split_of_interleaves h]; rfl
  | create h => rw [parse, Arguments.split_of_interleaves h]; rfl
  | get h => rw [parse, Arguments.split_of_interleaves h]; rfl
  | list h => rw [parse, Arguments.split_of_interleaves h]; rfl
  | update h => rw [parse, Arguments.split_of_interleaves h]; rfl
  | delete h => rw [parse, Arguments.split_of_interleaves h]; rfl
  | generate h => rw [parse, Arguments.split_of_interleaves h]; rfl

theorem line_of_parse {args : List String} {c : Command} (h : parse args = .ok c) :
    Line args c := by
  cases args with
  | nil => cases h
  | cons name rest =>
      obtain ⟨found, hfound, h⟩ := bind_eq_ok.1 h
      obtain ⟨values, hrest, hout⟩ := Arguments.interleaves_of_split hfound
      exact line_of_ofArguments hrest hout h

/-- **The reader accepts exactly the lines of the grammar**, each as the command that it is written
for, and has a fault for every other. -/
theorem parse_eq_ok_iff_line (args : List String) :
    (∀ c, parse args = .ok c ↔ Line args c) ∧
      ((∃ fault, parse args = .error fault) ↔ ∀ c, ¬ Line args c) := by
  refine ⟨fun c => ⟨line_of_parse, parse_of_line⟩, ?_⟩
  constructor
  · rintro ⟨fault, hfault⟩ c hline
    cases hfault.symm.trans (parse_of_line hline)
  · intro hnone
    cases hparse : parse args with
    | error fault => exact ⟨fault, rfl⟩
    | ok c => exact absurd (line_of_parse hparse) (hnone c)

/-- A flag may stand in front of the arguments, and its value may look like one. -/
example : parse ["compile", "--out", "--out", "f", "--out", "b"] =
    .ok (.compile "f" (some "b")) := by
  decide

end Command

end VideoSurvey
