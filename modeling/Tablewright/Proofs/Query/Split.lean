import Tablewright.Proofs.Query.Occurrence

/-!
# Splits at connectors

A text is cut at connectors from left to right, each time at the first connector that begins in what
is left.  Every text has one such split, and its pieces are the parts that hold something.  Texts
without connectors that are put together by connectors are cut into the same texts again: a
connector that began in one of them would have to run into the connector after it, and no two
overlap.
-/

namespace Tablewright.Query

open Sql (Connector)

variable {text before after rest : List Char} {connector : Connector} {parts : List Piece}

/-! ## Texts without connectors -/

/-- No connector is in the text. -/
def NoConnector (text : List Char) : Prop :=
  ∀ connector, ¬ connectorSpelling connector <:+: text

theorem noConnector_iff :
    NoConnector text ↔
      ¬ connectorSpelling .and <:+: text ∧ ¬ connectorSpelling .or <:+: text := by
  refine ⟨fun free => ⟨free .and, free .or⟩, fun ⟨no_and, no_or⟩ connector => ?_⟩
  cases connector with
  | and => exact no_and
  | or => exact no_or

instance (text : List Char) : Decidable (NoConnector text) :=
  decidable_of_iff _ noConnector_iff.symm

theorem connectorSpelling_ne (connector : Connector) : connectorSpelling connector ≠ [] := by
  cases connector <;> decide

theorem head?_connectorSpelling_append (connector : Connector) (rest : List Char) :
    ∀ c ∈ (connectorSpelling connector ++ rest).head?, c = 'A' ∨ c = 'O' := by
  cases connector <;> simp [connectorSpelling_and, connectorSpelling_or]

/-- No connector begins in a text without one, be it before a connector or last. -/
theorem NoConnector.quiet
    (free : NoConnector text)
    (edge : ∀ c ∈ rest.head?, c = 'A' ∨ c = 'O')
    (connector : Connector) :
    Quiet (connectorSpelling connector) text rest := by
  apply Quiet.of_not_infix (free connector)
  intro c first
  rcases edge c first with rfl | rfl <;> cases connector <;> decide

/-- A connector is read off the text that it begins. -/
theorem eq_of_connectorSpelling_append_eq
    {other : Connector}
    (equal : connectorSpelling connector ++ rest = connectorSpelling other ++ after) :
    connector = other ∧ rest = after := by
  cases connector <;> cases other <;>
    simp [connectorSpelling_and, connectorSpelling_or] at equal ⊢ <;> exact equal

/-! ## Splits -/

/-- A text and its parts from left to right: each cut is at the first connector that begins in what
is left, and nothing is cut once there is none. -/
inductive IsSplit : List Char → List Piece → Prop
  | last {text : List Char} :
      NoConnector text → IsSplit text [{ text, connector := none }]
  | cut {before rest : List Char} {connector : Connector} {parts : List Piece} :
      (∀ other, Quiet (connectorSpelling other) before (connectorSpelling connector ++ rest)) →
      IsSplit rest parts →
      IsSplit (before ++ (connectorSpelling connector ++ rest))
        ({ text := before, connector := some connector } :: parts)

/-- Two first cuts of one text are the same. -/
theorem eq_of_first_cut
    {other : Connector}
    {start : List Char}
    (quiet : ∀ c, Quiet (connectorSpelling c) before (connectorSpelling connector ++ rest))
    (start_quiet : ∀ c, Quiet (connectorSpelling c) start (connectorSpelling other ++ after))
    (equal : before ++ (connectorSpelling connector ++ rest) =
      start ++ (connectorSpelling other ++ after)) :
    before = start ∧ connector = other ∧ rest = after := by
  rcases List.append_eq_append_iff.mp equal with
    ⟨more, rfl, rest_equal⟩ | ⟨more, rfl, rest_equal⟩
  · have more_eq : more = [] := by
      by_contra more_ne
      exact start_quiet connector more more_ne (List.suffix_append before more)
        ⟨rest, rest_equal⟩
    rw [more_eq, List.nil_append] at rest_equal
    exact ⟨by rw [more_eq, List.append_nil], eq_of_connectorSpelling_append_eq rest_equal⟩
  · have more_eq : more = [] := by
      by_contra more_ne
      exact quiet other more more_ne (List.suffix_append start more) ⟨after, rest_equal⟩
    rw [more_eq, List.nil_append] at rest_equal
    exact ⟨by rw [more_eq, List.append_nil], eq_of_connectorSpelling_append_eq rest_equal.symm⟩

namespace IsSplit

/-- A text has one split. -/
theorem unique
    {others : List Piece}
    (split : IsSplit text parts)
    (other_split : IsSplit text others) :
    parts = others := by
  induction split generalizing others with
  | last free =>
    cases other_split with
    | last => rfl
    | @cut before rest connector parts _ _ =>
      exact absurd ⟨before, rest, List.append_assoc _ _ _⟩ (free connector)
  | @cut before rest connector parts quiet later ih =>
    generalize equal : before ++ (connectorSpelling connector ++ rest) = text at other_split
    cases other_split with
    | last free =>
      exact absurd ⟨before, rest, by rw [← equal, List.append_assoc]⟩ (free connector)
    | cut other_quiet other_later =>
      obtain ⟨rfl, rfl, rfl⟩ := eq_of_first_cut quiet other_quiet equal
      rw [ih other_later]

/-- No connector is left in a part. -/
theorem noConnector (split : IsSplit text parts) : ∀ part ∈ parts, NoConnector part.text := by
  induction split with
  | last free => exact List.forall_mem_singleton.mpr free
  | cut quiet later ih =>
    exact List.forall_mem_cons.mpr
      ⟨fun other => Quiet.not_infix (quiet other) (connectorSpelling_ne other), ih⟩

/-- Only the last part is without a connector, and it ends the text. -/
theorem exists_eq_append (split : IsSplit text parts) :
    ∃ init last, parts = init ++ [{ text := last, connector := none }] ∧ last <:+ text ∧
      ∀ part ∈ init, part.connector.isSome := by
  induction split with
  | @last text free => exact ⟨[], text, rfl, List.suffix_rfl, nofun⟩
  | @cut before rest connector parts quiet later ih =>
    obtain ⟨init, last, rfl, ends, connected⟩ := ih
    refine ⟨_ :: init, last, rfl, ?_, List.forall_mem_cons.mpr ⟨rfl, connected⟩⟩
    rw [← List.append_assoc]
    exact ends.trans (List.suffix_append _ rest)

end IsSplit

/-! ## Pieces -/

/-- The parts that hold something. -/
def occupied (parts : List Piece) : List Piece :=
  parts.filter (·.text ≠ [])

/-- The open piece is kept if it holds something. -/
theorem closed_append_occupied
    (back : List Char)
    (connector : Option Connector)
    (parts : List Piece) :
    closed back connector ++ occupied parts =
      occupied ({ text := back.reverse, connector } :: parts) := by
  cases back <;> simp [closed, occupied]

/-- The pieces behind an open piece in which no connector begins are the parts that hold
something. -/
theorem exists_isSplit_piecesAfter
    (back text : List Char)
    (quiet : ∀ connector, Quiet (connectorSpelling connector) back.reverse text) :
    ∃ parts, IsSplit (back.reverse ++ text) parts ∧ piecesAfter back text = occupied parts := by
  fun_induction piecesAfter back text with
  | case1 back rest ih =>
    obtain ⟨parts, split, kept⟩ := ih fun _ => Quiet.nil _ _
    have cut : IsSplit (back.reverse ++ (connectorSpelling .and ++ rest)) _ := .cut quiet split
    exact ⟨_, cut, by rw [kept, closed_append_occupied]⟩
  | case2 back rest ih =>
    obtain ⟨parts, split, kept⟩ := ih fun _ => Quiet.nil _ _
    have cut : IsSplit (back.reverse ++ (connectorSpelling .or ++ rest)) _ := .cut quiet split
    exact ⟨_, cut, by rw [kept, closed_append_occupied]⟩
  | case3 back c rest not_and not_or ih =>
    -- No connector begins at the character that goes into the open piece.
    have not_here (connector : Connector) : ¬ connectorSpelling connector <+: c :: rest := by
      rintro ⟨more, equal⟩
      cases connector with
      | and =>
        rw [connectorSpelling_and] at equal
        obtain ⟨rfl, rfl⟩ := List.cons.inj equal
        exact not_and more rfl rfl
      | or =>
        rw [connectorSpelling_or] at equal
        obtain ⟨rfl, rfl⟩ := List.cons.inj equal
        exact not_or more rfl rfl
    have grown (connector : Connector) :
        Quiet (connectorSpelling connector) (c :: back).reverse rest := by
      rw [List.reverse_cons, Quiet.append_iff, Quiet.cons_iff]
      exact ⟨quiet connector, not_here connector, Quiet.nil _ _⟩
    obtain ⟨parts, split, kept⟩ := ih grown
    rw [List.reverse_cons, List.append_assoc] at split
    exact ⟨parts, split, kept⟩
  | case4 back =>
    have free : NoConnector (back.reverse ++ []) := by
      rw [List.append_nil]
      exact fun connector => Quiet.not_infix (quiet connector) (connectorSpelling_ne connector)
    refine ⟨_, .last free, ?_⟩
    rw [List.append_nil, ← closed_append_occupied]
    exact (List.append_nil _).symm

/-- Of the parts that hold something only the last can be without a connector. -/
theorem IsSplit.exists_occupied_eq_append
    {piece : Piece}
    (split : IsSplit text parts)
    (member : piece ∈ occupied parts)
    (no_connector : piece.connector = none) :
    piece.text <:+ text ∧ ∃ before, occupied parts = before ++ [piece] := by
  obtain ⟨init, last, rfl, ends, connected⟩ := split.exists_eq_append
  obtain ⟨part_member, held⟩ := List.mem_filter.mp member
  have not_before : piece ∉ init := by
    intro before
    have some_connector := connected piece before
    rw [no_connector] at some_connector
    cases some_connector
  obtain rfl := List.mem_singleton.mp ((List.mem_append.mp part_member).resolve_left not_before)
  refine ⟨ends, occupied init, ?_⟩
  rw [occupied, occupied, List.filter_append]
  exact congrArg (List.filter _ init ++ ·) (List.filter_cons_of_pos held)

theorem exists_isSplit (text : List Char) :
    ∃ parts, IsSplit text parts ∧ pieces text = occupied parts :=
  exists_isSplit_piecesAfter [] text fun _ => Quiet.nil _ _

/-- The pieces of a text are the parts of its split that hold something. -/
theorem IsSplit.pieces_eq (split : IsSplit text parts) : pieces text = occupied parts := by
  obtain ⟨others, other_split, kept⟩ := exists_isSplit text
  rw [kept, split.unique other_split]

/-! ## Texts put together by connectors -/

/-- The piece as a name spells it, with the connector after it. -/
def Piece.spelling (piece : Piece) : List Char :=
  piece.text ++ (piece.connector.map connectorSpelling).getD []

/-- Texts, each with the connector after it, and a last text. -/
def connected
    (texts : List (List Char × Connector))
    (last : List Char) : List Piece :=
  texts.map (fun (text, connector) => { text, connector := some connector }) ++
    [{ text := last, connector := none }]

/-- Texts without connectors are cut where they were put together. -/
theorem isSplit_connected
    {texts : List (List Char × Connector)}
    {last : List Char}
    (free : ∀ piece ∈ connected texts last, NoConnector piece.text) :
    IsSplit ((connected texts last).flatMap Piece.spelling) (connected texts last) := by
  induction texts with
  | nil =>
    have last_free : NoConnector last := free _ (List.mem_singleton_self _)
    have spelled : (connected [] last).flatMap Piece.spelling = last := by
      simp [connected, Piece.spelling]
    rw [spelled]
    exact .last last_free
  | cons head texts ih =>
    obtain ⟨text, connector⟩ := head
    obtain ⟨here, later⟩ := List.forall_mem_cons.mp free
    have spelled : (connected ((text, connector) :: texts) last).flatMap Piece.spelling =
        text ++ (connectorSpelling connector ++
          (connected texts last).flatMap Piece.spelling) := by
      simp [connected, Piece.spelling]
    rw [spelled]
    exact .cut (here.quiet (head?_connectorSpelling_append connector _)) (ih later)

/-- Texts that hold something and no connector are the pieces of what they are put together to. -/
theorem pieces_connected
    {texts : List (List Char × Connector)}
    {last : List Char}
    (held : ∀ piece ∈ connected texts last, piece.text ≠ [] ∧ NoConnector piece.text) :
    pieces ((connected texts last).flatMap Piece.spelling) = connected texts last := by
  rw [(isSplit_connected fun piece member => (held piece member).2).pieces_eq, occupied,
    List.filter_eq_self]
  intro piece member
  exact decide_eq_true (held piece member).1

/-- The pieces of a text are the parts of its one split that hold something.  No connector is left
in a piece, and a piece without a connector after it is the last one and ends the text.  A text that
is put together by connectors from texts that hold something and no connector has these as its
pieces. -/
theorem pieces_isSplit (text : List Char) :
    (∃ parts, (∀ others, IsSplit text others ↔ others = parts) ∧
        pieces text = parts.filter (·.text ≠ [])) ∧
      (∀ piece ∈ pieces text, NoConnector piece.text ∧
        (piece.connector = none →
          piece.text <:+ text ∧ ∃ before, pieces text = before ++ [piece])) ∧
      ∀ texts last, (connected texts last).flatMap Piece.spelling = text →
        (∀ piece ∈ connected texts last, piece.text ≠ [] ∧ NoConnector piece.text) →
        pieces text = connected texts last := by
  obtain ⟨parts, split, kept⟩ := exists_isSplit text
  refine ⟨⟨parts, fun others => ⟨fun other => other.unique split, ?_⟩, kept⟩, ?_, ?_⟩
  · rintro rfl
    exact split
  · intro piece member
    rw [kept] at member ⊢
    exact ⟨split.noConnector piece (List.mem_of_mem_filter member),
      split.exists_occupied_eq_append member⟩
  · rintro texts last rfl held
    exact pieces_connected held

/-- Texts that end like the beginning of a connector, each with the connector after it. -/
def joints : List Piece :=
  connected [("BanA".toList, .and), ("An".toList, .or), ("O".toList, .and)] "Nand".toList

/-- Texts that end like the beginning of a connector are cut where they end. -/
theorem pieces_isSplit_joints :
    joints.flatMap Piece.spelling = "BanAAndAnOrOAndNand".toList ∧
      (∀ piece ∈ joints, piece.text ≠ [] ∧ NoConnector piece.text) ∧
      pieces "BanAAndAnOrOAndNand".toList = joints := by
  have spelled : joints.flatMap Piece.spelling = "BanAAndAnOrOAndNand".toList := by decide
  have held : ∀ piece ∈ joints, piece.text ≠ [] ∧ NoConnector piece.text := by decide
  exact ⟨spelled, held, (pieces_isSplit _).2.2 _ _ spelled held⟩

end Tablewright.Query
