import SvgDrawing.Markup.Document
import SvgDrawing.Proofs.Element.DocumentOrder
import SvgDrawing.Proofs.Element.Namespace
import SvgDrawing.Proofs.Results

/-!
# The tags of documents

Braces are no characters of names, and no prefix can be bound to a URI with a closing brace.  So the
tag of an element in a document is a local name without braces, and in front of it, if the element
is in a namespace, a URI in braces that ends at the first closing one: `Tag.IsProper`.

The bindings in force keep this from one start tag to the next (`Scope.IsClosed`), and an element is
kept with its tag while what is inside it is read.
-/
namespace SvgDrawing

/-- A local name without braces, by itself or in a namespace whose URI has no closing brace. -/
def Tag.IsProper (tag : String) : Prop :=
  ∃ name, Tag.IsBare name ∧
    (tag = name ∨ ∃ uri : String, '\x7d' ∉ uri.toList ∧ tag = Tag.qualified uri name)

/-- The element and all elements inside it have proper tags. -/
def Node.HasProperTags (node : Node) : Prop :=
  ∀ p tag a inside, node.descendant? p = some (.element tag a inside) → Tag.IsProper tag

theorem Node.hasProperTags_element {tag : String} {a : Attributes} {inside : List Node}
    (htag : Tag.IsProper tag) (hinside : ∀ node ∈ inside, node.HasProperTags) :
    (Node.element tag a inside).HasProperTags := by
  intro p tag' a' inside' hp
  cases p with
  | nil =>
    cases hp
    exact htag
  | cons i p =>
    obtain ⟨child, hchild, hp⟩ := Option.bind_eq_some_iff.mp hp
    exact hinside child (List.mem_of_getElem? hchild) p tag' a' inside' hp

namespace Markup

/-! ## Names -/

section Names

variable [Alphabet] {s name rest : List Char}

/-- No brace is a character of names. -/
def LacksBraces : Prop := isNameChar '\x7b' = false ∧ isNameChar '\x7d' = false

theorem isNameChar_of_mem_name (h : Markup.name s = .ok (name, rest)) :
    ∀ c ∈ name, isNameChar c := by
  cases s with
  | nil => cases h
  | cons c s =>
    rw [Markup.name] at h
    split at h
    · next hc =>
      cases h
      refine List.forall_mem_cons.mpr ⟨by rw [isNameChar, hc]; rfl, ?_⟩
      exact List.all_eq_true.mp List.all_takeWhile
    · cases h

theorem isNameChar_of_mem_qualifiedName (h : qualifiedName s = .ok (name, rest)) :
    ∀ c ∈ name, isNameChar c ∨ c = ':' := by
  obtain ⟨⟨first, after⟩, hfirst, h⟩ := exists_of_bind_eq_ok h
  have hchars : ∀ c ∈ first, isNameChar c ∨ c = ':' := fun c hc =>
    .inl (isNameChar_of_mem_name hfirst c hc)
  simp only at h
  split at h
  · obtain ⟨⟨second, after⟩, hsecond, h⟩ := exists_of_bind_eq_ok h
    cases h
    rw [List.forall_mem_append, List.forall_mem_cons]
    exact ⟨hchars, .inr rfl, fun c hc => .inl (isNameChar_of_mem_name hsecond c hc)⟩
  · cases h
    exact hchars

/-- The names of start tags have no braces in them. -/
theorem isBare_of_qualifiedName (hlacks : LacksBraces) (h : qualifiedName s = .ok (name, rest)) :
    '\x7b' ∉ name ∧ '\x7d' ∉ name := by
  have hchars := isNameChar_of_mem_qualifiedName h
  constructor
  · intro hc
    simpa [hlacks.1] using hchars _ hc
  · intro hc
    simpa [hlacks.2] using hchars _ hc

end Names

theorem mem_of_mem_splitName {c : Char} {s : List Char} (h : c ∈ (splitName s).2) : c ∈ s := by
  rw [splitName] at h
  split at h
  · exact h
  · next rest hrest =>
    refine (List.dropWhile_sublist _).mem (hrest ▸ List.mem_cons_of_mem _ h)

/-! ## Bindings -/

namespace Scope

/-- No prefix is bound to a URI with a closing brace. -/
def IsClosed (scope : Scope) : Prop := ∀ binding ∈ scope, '\x7d' ∉ binding.2

theorem isClosed_initial : IsClosed initial := by
  rw [IsClosed, initial, List.forall_mem_cons, List.forall_mem_singleton]
  exact ⟨by decide, List.not_mem_nil⟩

variable {scope scope' : Scope}

theorem IsClosed.bind {binding : List Char × List Char} (hscope : scope.IsClosed)
    (h : scope.bind binding = .ok scope') : scope'.IsClosed := by
  simp only [Scope.bind] at h
  split at h
  · cases h
  · split at h
    · cases h
    · split at h
      · cases h
      · split at h
        · cases h
        · next hrefused =>
          cases h
          have hclosed : '\x7d' ∉ binding.2 := fun hmem => hrefused (by simp [hmem])
          exact List.forall_mem_cons.mpr ⟨hclosed, hscope⟩

theorem IsClosed.foldlM_bind {bindings : List (List Char × List Char)} (hscope : scope.IsClosed)
    (h : bindings.foldlM Scope.bind scope = .ok scope') : scope'.IsClosed := by
  induction bindings generalizing scope with
  | nil =>
    cases h
    exact hscope
  | cons binding rest ih =>
    rw [List.foldlM_cons] at h
    obtain ⟨next, hnext, h⟩ := exists_of_bind_eq_ok h
    exact ih (hscope.bind hnext) h

theorem IsClosed.lookup {key uri : List Char} (hscope : scope.IsClosed)
    (h : List.lookup key scope = some uri) : '\x7d' ∉ uri := by
  obtain ⟨front, back, hsplit, -⟩ := List.lookup_eq_some_iff.mp h
  exact hscope (key, uri) (by simp [hsplit])

/-- A local name in a namespace is a proper tag. -/
theorem isProper_expanded {uri name : List Char} (huri : '\x7d' ∉ uri)
    (hname : '\x7b' ∉ name ∧ '\x7d' ∉ name) : Tag.IsProper (String.ofList (expanded uri name)) := by
  refine ⟨String.ofList name, by simpa [Tag.IsBare] using hname, ?_⟩
  rw [expanded]
  split
  · exact .inl rfl
  · exact .inr ⟨String.ofList uri, by simpa using huri,
      String.toList_inj.mp (by simp [Tag.qualified])⟩

theorem IsClosed.isProper_of_expand {default name tag : List Char} (hscope : scope.IsClosed)
    (hdefault : '\x7d' ∉ default) (hname : '\x7b' ∉ name ∧ '\x7d' ∉ name)
    (h : scope.expand default name = .ok tag) : Tag.IsProper (String.ofList tag) := by
  have hlocal : ∀ nsPrefix localName, splitName name = (nsPrefix, localName) →
      '\x7b' ∉ localName ∧ '\x7d' ∉ localName := by
    rintro nsPrefix localName hsplit
    have hmem : ∀ c ∈ localName, c ∈ name := fun c hc => mem_of_mem_splitName (by rwa [hsplit])
    exact ⟨fun hc => hname.1 (hmem _ hc), fun hc => hname.2 (hmem _ hc)⟩
  rw [expand] at h
  split at h
  · next localName hsplit =>
    cases h
    exact isProper_expanded hdefault (hlocal _ _ hsplit)
  · next nsPrefix localName hsplit =>
    split at h
    · next uri huri =>
      cases h
      exact isProper_expanded (hscope.lookup huri) (hlocal _ _ hsplit)
    · cases h

end Scope

/-! ## What is open and what is finished -/

/-- An open element with a proper tag and closed bindings, and whose children so far have proper
tags. -/
structure OpenElement.IsProper (e : OpenElement) : Prop where
  tag : Tag.IsProper e.tag
  scope : e.scope.IsClosed
  children : ∀ node ∈ e.children, node.HasProperTags

/-- The root is finished with proper tags, or all open elements are proper. -/
def IsProperState : Node ⊕ List OpenElement → Prop
  | .inl root => root.HasProperTags
  | .inr opened => ∀ e ∈ opened, e.IsProper

section State

variable {opened : List OpenElement}

theorem OpenElement.IsProper.close {e : OpenElement} (h : e.IsProper) : e.close.HasProperTags :=
  Node.hasProperTags_element h.tag fun node hnode => h.children node (List.mem_reverse.mp hnode)

theorem isProperState_finish (hopened : ∀ e ∈ opened, e.IsProper) {node : Node}
    (hnode : node.HasProperTags) : IsProperState (finish opened node) := by
  cases opened with
  | nil => exact hnode
  | cons parent rest =>
    rw [List.forall_mem_cons] at hopened
    obtain ⟨hparent, hrest⟩ := hopened
    exact List.forall_mem_cons.mpr
      ⟨⟨hparent.tag, hparent.scope, List.forall_mem_cons.mpr ⟨hnode, hparent.children⟩⟩, hrest⟩

/-- The bindings in force are closed. -/
theorem isClosed_head (hopened : ∀ e ∈ opened, e.IsProper) :
    ((opened.head?.map (·.scope)).getD Scope.initial).IsClosed := by
  cases opened with
  | nil => exact Scope.isClosed_initial
  | cons e rest => exact (hopened e List.mem_cons_self).scope

end State

/-! ## The reader -/

section Reader

variable [Alphabet] {d : Declarations} {opened : List OpenElement}

/-- A start tag gives a proper tag, and the bindings stay closed. -/
theorem isProper_of_resolve {outer scope : Scope} {element : List Char}
    {given : List (List Char × List Char)} {tag : String} {a : Attributes}
    (houter : outer.IsClosed) (helement : '\x7b' ∉ element ∧ '\x7d' ∉ element)
    (h : resolve d outer element given = .ok (tag, a, scope)) :
    Tag.IsProper tag ∧ scope.IsClosed := by
  rw [resolve] at h
  split at h
  · cases h
  · obtain ⟨all, -, h⟩ := exists_of_bind_eq_ok h
    obtain ⟨inner, hinner, h⟩ := exists_of_bind_eq_ok h
    obtain ⟨attributes, -, h⟩ := exists_of_bind_eq_ok h
    split at h
    · cases h
    · obtain ⟨expandedTag, htag, h⟩ := exists_of_bind_eq_ok h
      cases h
      have hclosed : scope.IsClosed := houter.foldlM_bind hinner
      refine ⟨hclosed.isProper_of_expand ?_ helement htag, hclosed⟩
      cases hdefault : List.lookup [] scope with
      | none => exact List.not_mem_nil
      | some uri => exact hclosed.lookup hdefault

/-- A step inside the root keeps tags proper. -/
theorem isProperState_of_contentStep (hlacks : LacksBraces) {steps : Nat} {s rest : List Char}
    {state : Node ⊕ List OpenElement} (hopened : ∀ e ∈ opened, e.IsProper)
    (h : contentStep d steps opened s = .ok (state, rest)) : IsProperState state := by
  unfold contentStep at h
  split at h
  · -- an end tag
    obtain ⟨_, -, h⟩ := exists_of_bind_eq_ok h
    obtain ⟨_, -, h⟩ := exists_of_bind_eq_ok h
    cases h
    rw [List.forall_mem_cons] at hopened
    exact isProperState_finish hopened.2 hopened.1.close
  · obtain ⟨_, -, h⟩ := exists_of_bind_eq_ok h
    cases h
    exact hopened
  · obtain ⟨_, -, h⟩ := exists_of_bind_eq_ok h
    obtain ⟨_, -, h⟩ := exists_of_bind_eq_ok h
    cases h
    exact hopened
  · obtain ⟨_, -, h⟩ := exists_of_bind_eq_ok h
    cases h
    exact hopened
  · -- a start tag
    obtain ⟨⟨name, _⟩, hname, h⟩ := exists_of_bind_eq_ok h
    obtain ⟨⟨⟨given, empty⟩, _⟩, -, h⟩ := exists_of_bind_eq_ok h
    obtain ⟨⟨tag, a, scope⟩, hresolve, h⟩ := exists_of_bind_eq_ok h
    obtain ⟨htag, hscope⟩ := isProper_of_resolve (isClosed_head hopened)
      (isBare_of_qualifiedName hlacks hname) hresolve
    have hnew : OpenElement.IsProper ⟨name, tag, a, scope, []⟩ := ⟨htag, hscope, nofun⟩
    cases h
    split
    · exact isProperState_finish hopened hnew.close
    · exact List.forall_mem_cons.mpr ⟨hnew, hopened⟩
  · obtain ⟨_, -, h⟩ := exists_of_bind_eq_ok h
    cases h
    exact hopened

/-- The root has proper tags, whatever number of steps it takes to read it. -/
theorem hasProperTags_of_contentWithin (hlacks : LacksBraces) {steps : Nat} {s rest : List Char}
    {root : Node} (hopened : ∀ e ∈ opened, e.IsProper)
    (h : contentWithin d steps opened s = .ok (root, rest)) : root.HasProperTags := by
  induction steps generalizing opened s with
  | zero => cases h
  | succ steps ih =>
    rw [contentWithin] at h
    obtain ⟨⟨state, after⟩, hstep, h⟩ := exists_of_bind_eq_ok h
    have hstate := isProperState_of_contentStep hlacks hopened hstep
    cases state with
    | inl node =>
      cases h
      exact hstate
    | inr opened => exact ih hstate h

theorem hasProperTags_of_document (hlacks : LacksBraces) {s : List Char} {root : Node}
    (h : document s = .ok root) : root.HasProperTags := by
  rw [document] at h
  obtain ⟨_, -, h⟩ := exists_of_bind_eq_ok h
  obtain ⟨_, -, h⟩ := exists_of_bind_eq_ok h
  dsimp only at h
  -- with declarations or without, what follows them is read in the same way
  split at h
  all_goals
    obtain ⟨_, -, h⟩ := exists_of_bind_eq_ok h
    obtain ⟨_, -, h⟩ := exists_of_bind_eq_ok h
    split at h
    · split at h
      · obtain ⟨⟨root', _⟩, hroot, h⟩ := exists_of_bind_eq_ok h
        obtain ⟨_, -, h⟩ := exists_of_bind_eq_ok h
        split at h
        · cases h
          exact hasProperTags_of_contentWithin hlacks (List.forall_mem_nil _) hroot
        · cases h
      · cases h
    · cases h

end Reader

/-- Neither alphabet has braces. -/
theorem lacksBraces_ofText (s : String) : @LacksBraces (Decoded.ofText s).alphabet := by
  have halphabet : (Decoded.ofText s).alphabet = .listed ∨
      (Decoded.ofText s).alphabet = .withSigns := by
    rw [Decoded.ofText]
    cases Encoding.ofBytes s.toUTF8.data.toList with
    | bytes => exact .inl rfl
    | units highFirst => exact .inr rfl
  rcases halphabet with h | h
  · rw [h]
    unfold LacksBraces
    decide
  · rw [h]
    unfold LacksBraces
    decide

end Markup

/-- The elements of a document have proper tags. -/
theorem Node.hasProperTags_of_ofText? {s : String} {root : Node} (h : Node.ofText? s = .ok root) :
    root.HasProperTags := by
  rw [Node.ofText?] at h
  obtain ⟨root', hroot, h⟩ := exists_of_bind_eq_ok h
  split at h
  · cases h
  · cases h
    exact @Markup.hasProperTags_of_document (Markup.Decoded.ofText s).alphabet
      (Markup.lacksBraces_ofText s) _ _ hroot

end SvgDrawing
