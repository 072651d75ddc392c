import VideoSurvey.Proofs.Overlay.BuiltIn
import VideoSurvey.Proofs.Template.Sheets
import VideoSurvey.Template.Parser

/-!
# Tokens in the stylesheet

The stylesheet's template is a sheet whose labels are the tokens of a theme and the height of the
overlay (`Pages.sheet`). Its text reads as the template, and is the sheet with the tag of each token
in the token's places. A stylesheet is the sheet with the tokens themselves there: they are neither
escaped nor trimmed, and what looks like a tag in them stays as it is, for the font too, once it is
made a stack. Two stylesheets that differ in one token are one outline, and the gaps of it are the
places of that token (`stylesheet_shows_tokens`).
-/

set_option autoImplicit false

namespace VideoSurvey.Overlay

open Survey (Theme)
open Template (Outline Path Slot Sheet Node lines lookup? pathText emission)
open Text (toList_of_eq_ofList)

/-- What a stylesheet is made for: the tokens of a theme, and the height of the overlay among the
layers of the page. -/
inductive Token where
  | primaryColor
  | textColor
  | borderColor
  | cardBackground
  | fontFamily
  | zIndex
deriving DecidableEq, Repr

namespace Token

/-- All tokens. -/
def all : List Token := [primaryColor, textColor, borderColor, cardBackground, fontFamily, zIndex]

/-- The path under which the stylesheet's template finds a token. -/
def path : Token → Path
  | primaryColor => ["theme", "primary_color"]
  | textColor => ["theme", "text_color"]
  | borderColor => ["theme", "border_color"]
  | cardBackground => ["theme", "card_background"]
  | fontFamily => ["font_stack"]
  | zIndex => ["z_index"]

/-- The tag of a token in the text of the template. -/
def tag (t : Token) : List Char := emission (pathText t.path)

/-- The number of places that a token has. -/
def places : Token → Nat
  | primaryColor => 5
  | textColor => 5
  | borderColor => 4
  | cardBackground => 2
  | fontFamily => 5
  | zIndex => 1

section Values

variable (theme : Theme) (height : String)

/-- A token as it is given. -/
def given : Token → String
  | primaryColor => theme.primaryColor
  | textColor => theme.textColor
  | borderColor => theme.borderColor
  | cardBackground => theme.cardBackground
  | fontFamily => theme.fontFamily
  | zIndex => height

/-- A token as the stylesheet shows it. The font is shown as a stack. -/
def shown : Token → String
  | fontFamily => Text.Font.stacked theme.fontFamily
  | t => t.given theme height

end Values

end Token

/-! ## The sheet -/

namespace Pages

/-- A part of the stylesheet's template as a part of the sheet. -/
def slotOf? : Node → Option (Slot Token)
  | .text s => some (.text s)
  | .emit (.path path) [] => (Token.all.find? fun t => t.path = path).map .place
  | _ => none

/-- The stylesheet with its places. -/
def sheet : Sheet Token := stylesheet.filterMap slotOf?

/-- The text of the stylesheet's template. -/
def stylesheetText : List Char := Template.source stylesheet

/-- Every part of the template is one of the sheet. -/
theorem nodes_sheet : sheet.nodes Token.path = stylesheet := by
  rfl

set_option maxRecDepth 100000 in
theorem parse_stylesheetText : Template.parse stylesheetText = some stylesheet := by
  simp (disch := exact rfl) only [stylesheetText, stylesheet, lines, List.map_cons, List.map_nil,
    toList_of_eq_ofList]
  rfl

theorem stylesheetText_eq : stylesheetText = sheet.write Token.tag := by
  rw [stylesheetText, ← nodes_sheet]
  exact Sheet.source_nodes sheet

theorem count_sheet (t : Token) : sheet.count (.place t) = t.places := by
  cases t
  all_goals decide +kernel

end Pages

/-! ## What is shown -/

section Shown

variable (theme : Theme) (height : String)

/-- The path of a token leads to what is shown for it. -/
theorem lookup_path (t : Token) :
    lookup? (stylesheetScope theme height) t.path = some (.str (t.shown theme height)) := by
  cases t with
  | _ => rfl

/-- **A stylesheet is the sheet with its tokens in their places.** -/
theorem stylesheet_eq : stylesheet Pages.templates theme height =
    .ok (Pages.sheet.write fun t => (t.shown theme height).toList) := by
  have hrender := Pages.render_part .stylesheet (Pages.stylesheet_fits theme height)
  -- the template is the sheet's, so its filling is the sheet with the values of the paths
  have hfill := Sheet.fill_nodes (lookup_path theme height) Pages.sheet
  rw [Pages.nodes_sheet] at hfill
  exact hrender.trans (congrArg Except.ok hfill)

/-- The stylesheet with the places of one token left open. -/
def Pages.without (t : Token) : Outline :=
  Pages.sheet.leaving t fun u => (u.shown theme height).toList

/-- **A token of a stylesheet stands in the places of that token.** -/
theorem stylesheet_eq_fillWith (t : Token) :
    stylesheet Pages.templates theme height =
      .ok ((Pages.without theme height t).fillWith
        (List.replicate t.places (t.shown theme height).toList)) := by
  rw [stylesheet_eq, Sheet.write_eq_fillWith t, Pages.count_sheet]
  rfl

end Shown

section Differing

variable {theme theme' : Theme} {height height' : String} {t : Token}

/-- What is shown for a token depends on this token alone. -/
theorem shown_congr (h : t.given theme height = t.given theme' height') :
    t.shown theme height = t.shown theme' height' := by
  cases t with
  | fontFamily => exact congrArg Text.Font.stacked h
  | _ => exact h

/-- **A token leaves everything but its own places as it is.** -/
theorem without_congr (h : ∀ u, u ≠ t → u.given theme height = u.given theme' height') :
    Pages.without theme height t = Pages.without theme' height' t := by
  apply Sheet.leaving_congr
  intro u hu
  exact congrArg String.toList (shown_congr (h u hu))

end Differing

/-- **Tokens stand in the stylesheet as they are.** The text of the stylesheet's template reads as
the template, and it is a sheet with the tag of each token in the places of that token. Whatever the
tokens are, the stylesheet is rendered, and it is this sheet with the tokens in their places. Where
two stylesheets differ in one token, both are the outline around the places of that token, each with
its own token in all of the gaps. -/
theorem stylesheet_shows_tokens :
    (Template.parse Pages.stylesheetText = some Pages.stylesheet ∧
      Pages.stylesheetText = Pages.sheet.write Token.tag ∧
      ∀ t, Pages.sheet.count (.place t) = t.places) ∧
    (∀ theme height, stylesheet Pages.templates theme height =
      .ok (Pages.sheet.write fun t => (t.shown theme height).toList)) ∧
    ∀ (t : Token) (theme theme' : Theme) (height height' : String),
      (∀ u, u ≠ t → u.given theme height = u.given theme' height') →
        (Pages.without theme height t).gaps = t.places ∧
          stylesheet Pages.templates theme height =
            .ok ((Pages.without theme height t).fillWith
              (List.replicate t.places (t.shown theme height).toList)) ∧
          stylesheet Pages.templates theme' height' =
            .ok ((Pages.without theme height t).fillWith
              (List.replicate t.places (t.shown theme' height').toList)) := by
  refine ⟨⟨Pages.parse_stylesheetText, Pages.stylesheetText_eq, Pages.count_sheet⟩,
    stylesheet_eq, ?_⟩
  intro t theme theme' height height' hothers
  have hgaps : (Pages.without theme height t).gaps = t.places :=
    (Sheet.gaps_leaving t _ Pages.sheet).trans (Pages.count_sheet t)
  refine ⟨hgaps, stylesheet_eq_fillWith theme height t, ?_⟩
  -- the other tokens agree, and with them all that stands around the gaps
  rw [without_congr hothers]
  exact stylesheet_eq_fillWith theme' height' t

/-- One theme has markup and an entity where the other has what looks like a tag of the template.
Either stands as it is in the five places of the token, among tokens that look like tags too. -/
theorem stylesheet_shows_tokens_hostile :
    let theme : Theme :=
      { primaryColor := "<b>&amp;", textColor := " \x7b% if theme %\x7d "
        borderColor := "</style>", cardBackground := "\x7b\x7b z_index \x7d\x7d"
        fontFamily := "A & \"B\"" }
    let theme' : Theme := { theme with primaryColor := "\x7b\x7b theme.text_color \x7d\x7d" }
    (∀ u, u ≠ Token.primaryColor → u.given theme "7" = u.given theme' "7") ∧
      ∃ o : Outline, o.gaps = 5 ∧
        stylesheet Pages.templates theme "7" =
          .ok (o.fillWith (List.replicate 5 "<b>&amp;".toList)) ∧
        stylesheet Pages.templates theme' "7" =
          .ok (o.fillWith (List.replicate 5 "\x7b\x7b theme.text_color \x7d\x7d".toList)) := by
  intro theme theme'
  have hothers : ∀ u, u ≠ Token.primaryColor → u.given theme "7" = u.given theme' "7" := by
    intro u hu
    cases u with
    | primaryColor => exact absurd rfl hu
    | _ => rfl
  exact ⟨hothers, _, stylesheet_shows_tokens.2.2 .primaryColor theme theme' "7" "7" hothers⟩

end VideoSurvey.Overlay
