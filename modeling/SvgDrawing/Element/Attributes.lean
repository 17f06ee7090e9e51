import SvgDrawing.Text.Pieces

/-!
# Attributes

The attributes of an element are texts by name.  Presentation attributes may be given in
the `style` attribute instead, as declarations separated by semicolons; there they take
precedence.  `Attributes.effective` spreads the declarations out, so that everything
after it looks in one place only.
-/

namespace SvgDrawing

/-- Texts by name.  No name is repeated. -/
abbrev Attributes := List (String × String)

namespace Attributes

/-- The value of an attribute. -/
def get? (a : Attributes) (name : String) : Option String := a.lookup name

/-- The attributes without one of them. -/
def erase (a : Attributes) (name : String) : Attributes := a.filter fun entry => entry.1 != name

/-- The attributes with a new value for one of them. -/
def set (a : Attributes) (name value : String) : Attributes := (name, value) :: a.erase name

theorem get?_cons (k v key : String) (a : Attributes) :
    get? ((k, v) :: a) key = if key = k then some v else a.get? key := by
  by_cases h : key = k
  · simp [get?, h]
  · simp [get?, List.lookup_cons, h, beq_eq_false_iff_ne.2 h]

theorem get?_erase (a : Attributes) (name key : String) :
    (a.erase name).get? key = if key = name then none else a.get? key := by
  induction a with
  | nil => simp [get?, erase]
  | cons entry rest ih =>
    obtain ⟨k, v⟩ := entry
    by_cases hk : k = name
    · have : erase ((k, v) :: rest) name = erase rest name := by simp [erase, hk]
      rw [this, ih, get?_cons, hk]
      split <;> rfl
    · have : erase ((k, v) :: rest) name = (k, v) :: erase rest name := by simp [erase, hk]
      rw [this, get?_cons, ih, get?_cons]
      by_cases hkey : key = k
      · simp [hkey, hk]
      · simp [hkey]

theorem get?_set (a : Attributes) (name value key : String) :
    (a.set name value).get? key = if key = name then some value else a.get? key := by
  rw [set, get?_cons, get?_erase]
  by_cases h : key = name <;> simp [h]

end Attributes

/-! ## Styles -/

/-- One declaration: the name before the first colon and the value after it, which is
empty if there is no colon.  Blanks around either do not count. -/
def declaration (piece : List Char) : String × String :=
  let (name, value) := Text.cutAt ':' piece
  (String.ofList (Text.strip name), String.ofList (Text.strip value))

/-- The declarations of a style text, in order.  Blank pieces between semicolons are
skipped. -/
def declarations (style : String) : List (String × String) :=
  ((Text.splitOn ';' style.toList).filterMap fun piece =>
    let bare := Text.strip piece
    if bare.isEmpty then none else some (declaration bare))

namespace Attributes

/-- The attributes with the declarations of the style in the place of the style.  Later
declarations replace earlier ones and attributes. -/
def effective (a : Attributes) : Attributes :=
  match a.get? "style" with
  | none => a
  | some style => (declarations style).foldl (fun b d => b.set d.1 d.2) (a.erase "style")

end Attributes

end SvgDrawing
