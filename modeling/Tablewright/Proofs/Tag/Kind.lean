import Mathlib.Data.List.Perm.Basic
import Tablewright.Proofs.Tag.Normal

/-!
# Kinds of tokens

A tag may say the same kind of thing twice, and then what it says last counts.  What it says of
different kinds does not interfere: a constraint is that of the last token of each kind, in any
order.
-/

namespace Tablewright

namespace Tag

/-- What a token is about: of two tokens of one kind only the later one counts. -/
inductive Kind where
  | primaryKey
  | unique
  | uniqueGroup
  | ignore
  | index
  | check
  | default
  | values
  | foreignKey
  | table
  | unrecognized
  deriving DecidableEq, Repr

namespace Token

/-- The kind of a token.  All forms of an index are one kind, and so are all foreign keys. -/
def kind : Token → Kind
  | primaryKey => .primaryKey
  | unique => .unique
  | uniqueGroup _ => .uniqueGroup
  | ignore => .ignore
  | index _ _ => .index
  | check _ => .check
  | default _ => .default
  | values _ => .values
  | foreignKey _ => .foreignKey
  | table _ => .table
  | unrecognized _ => .unrecognized

end Token

/-- The tokens of a kind, in order. -/
def ofKind
    (kind : Kind)
    (tokens : List Token) : List Token :=
  tokens.filter (·.kind = kind)

/-- The last token of each kind, without those that are not recognized. -/
def lastOfKinds : List Token → List Token
  | [] => []
  | token :: rest =>
    if token.kind = .unrecognized ∨ ofKind token.kind rest ≠ [] then lastOfKinds rest
    else token :: lastOfKinds rest

variable {token other : Token} {tokens : List Token} {kind : Kind}

theorem ofKind_cons_of_eq (same : token.kind = kind) :
    ofKind kind (token :: tokens) = token :: ofKind kind tokens :=
  List.filter_cons_of_pos (decide_eq_true same)

theorem ofKind_cons_of_ne (other : token.kind ≠ kind) :
    ofKind kind (token :: tokens) = ofKind kind tokens :=
  List.filter_cons_of_neg (by simpa using other)

/-- A token is kept exactly if it is recognized and the last one of its kind. -/
theorem mem_lastOfKinds_iff :
    token ∈ lastOfKinds tokens ↔
      token.kind ≠ .unrecognized ∧ (ofKind token.kind tokens).getLast? = some token := by
  induction tokens with
  | nil => exact iff_of_false List.not_mem_nil fun last => nomatch last.2
  | cons first rest ih =>
    by_cases same : first.kind = token.kind
    · rw [ofKind_cons_of_eq same, lastOfKinds, same]
      by_cases later : ofKind token.kind rest = []
      · -- The first token is the last one of its kind.
        have absent : token ∉ lastOfKinds rest := fun member => by
          rw [ih, later] at member
          cases member.2
        rw [later, List.getLast?_singleton]
        split_ifs with dropped
        · have unrecognized := dropped.resolve_right fun none_later => none_later rfl
          exact iff_of_false absent fun last => last.1 unrecognized
        · rw [not_or] at dropped
          rw [List.mem_cons, or_iff_left absent, Option.some_inj, and_iff_right dropped.1, eq_comm]
      · rw [if_pos (.inr later), ih, List.getLast?_cons]
        cases last_eq : (ofKind token.kind rest).getLast? with
        | none => exact absurd (List.getLast?_eq_none_iff.mp last_eq) later
        | some last => rfl
    · have different : token ≠ first := fun eq => same (congrArg Token.kind eq.symm)
      rw [ofKind_cons_of_ne same, ← ih, lastOfKinds]
      split
      · rfl
      · rw [List.mem_cons, or_iff_right different]

/-- No two of the last tokens are of one kind. -/
theorem eq_of_mem_lastOfKinds
    (member : token ∈ lastOfKinds tokens)
    (other_member : other ∈ lastOfKinds tokens)
    (same : token.kind = other.kind) :
    token = other := by
  have last := (mem_lastOfKinds_iff.mp member).2
  have other_last := (mem_lastOfKinds_iff.mp other_member).2
  rw [same, other_last] at last
  exact (Option.some.inj last).symm

theorem nodup_lastOfKinds (tokens : List Token) : (lastOfKinds tokens).Nodup := by
  induction tokens with
  | nil => exact List.nodup_nil
  | cons token rest ih =>
    rw [lastOfKinds]
    split
    · exact ih
    · next kept =>
      refine List.nodup_cons.mpr ⟨fun member => kept (.inr fun none_later => ?_), ih⟩
      rw [mem_lastOfKinds_iff, none_later] at member
      cases member.2

/-- The last tokens of two lists are the same if the tokens of each kind are. -/
theorem lastOfKinds_perm
    {others : List Token}
    (same : ∀ kind, kind ≠ .unrecognized → ofKind kind others = ofKind kind tokens) :
    (lastOfKinds others).Perm (lastOfKinds tokens) := by
  rw [List.perm_ext_iff_of_nodup (nodup_lastOfKinds others) (nodup_lastOfKinds tokens)]
  intro token
  rw [mem_lastOfKinds_iff, mem_lastOfKinds_iff]
  exact and_congr_right fun recognized => by rw [same token.kind recognized]

end Tag

namespace Constraint

open Tag (Kind Token lastOfKinds ofKind)

variable {column : String} {constraint : Constraint} {token next : Token} {tokens : List Token}

/-! ## One token after another -/

/-- A token leaves nothing of an earlier one of its kind. -/
theorem apply_apply_of_kind_eq (same : token.kind = next.kind) :
    apply column (apply column constraint token) next = apply column constraint next := by
  cases token <;> cases next <;> cases same <;> rfl

/-- Tokens of different kinds may change places. -/
theorem apply_apply_of_kind_ne (different : token.kind ≠ next.kind) :
    apply column (apply column constraint token) next =
      apply column (apply column constraint next) token := by
  cases token <;> cases next <;> simp_all [apply, Token.kind]

theorem apply_of_kind_unrecognized (unrecognized : token.kind = .unrecognized) :
    apply column constraint token = constraint := by
  cases token <;> cases unrecognized
  rfl

/-! ## All tokens -/

/-- A token that another of its kind follows adds nothing. -/
theorem foldl_apply_of_ofKind_ne_nil (later : ofKind token.kind tokens ≠ []) :
    tokens.foldl (apply column) (apply column constraint token) =
      tokens.foldl (apply column) constraint := by
  induction tokens generalizing constraint with
  | nil => exact absurd rfl later
  | cons next rest ih =>
    rw [List.foldl_cons, List.foldl_cons]
    by_cases same : token.kind = next.kind
    · rw [apply_apply_of_kind_eq same]
    · rw [Tag.ofKind_cons_of_ne (Ne.symm same)] at later
      rw [apply_apply_of_kind_ne same, ih later]

/-- Only the last tokens of their kinds count. -/
theorem foldl_lastOfKinds
    (column : String)
    (tokens : List Token)
    (constraint : Constraint) :
    (lastOfKinds tokens).foldl (apply column) constraint =
      tokens.foldl (apply column) constraint := by
  induction tokens generalizing constraint with
  | nil => rfl
  | cons token rest ih =>
    rw [lastOfKinds, List.foldl_cons]
    split
    · next dropped =>
      rw [ih]
      rcases dropped with unrecognized | later
      · rw [apply_of_kind_unrecognized unrecognized]
      · rw [foldl_apply_of_ofKind_ne_nil later]
    · rw [List.foldl_cons, ih]

/-- The last tokens of their kinds may stand in any order. -/
theorem ofTokens_eq_of_perm_lastOfKinds
    {kept : List Token}
    (any_order : kept.Perm (lastOfKinds tokens)) :
    ofTokens column kept = ofTokens column tokens := by
  have swap : ∀ token ∈ kept, ∀ next ∈ kept, ∀ constraint,
      apply column (apply column constraint token) next =
        apply column (apply column constraint next) token := by
    intro token member next next_member constraint
    by_cases same : token.kind = next.kind
    · rw [Tag.eq_of_mem_lastOfKinds (any_order.subset member) (any_order.subset next_member) same]
    · exact apply_apply_of_kind_ne same
  calc ofTokens column kept
      = (lastOfKinds tokens).foldl (apply column) {} := any_order.foldl_eq' swap {}
    _ = ofTokens column tokens := foldl_lastOfKinds column tokens {}

/-! ## Parts of a constraint -/

namespace IsNormal

/-- An index is named as its tag names it. -/
theorem indexName_of_indexGroup
    (normal : IsNormal column constraint)
    {name : String}
    (named : constraint.indexGroup = some name) :
    constraint.indexName = some name := by
  cases index_eq : constraint.indexName with
  | none =>
    rw [(normal.noIndex index_eq).1] at named
    cases named
  | some index =>
    have indexed := normal.indexName (by rw [index_eq]; rfl)
    rwa [named, index_eq] at indexed

/-- What is unique is an index with a name. -/
theorem isSome_indexName
    (normal : IsNormal column constraint)
    (unique : constraint.indexIsUnique) :
    constraint.indexName.isSome := by
  by_contra nameless
  rw [Option.not_isSome_iff_eq_none] at nameless
  rw [(normal.noIndex nameless).2] at unique
  cases unique

/-- Only a reference has a group and actions. -/
theorem isSome_reference
    (normal : IsNormal column constraint)
    (keyed : constraint.foreignKeyGroup.isSome ∨ constraint.onDelete.isSome ∨
      constraint.onUpdate.isSome) :
    constraint.reference.isSome := by
  by_contra no_reference
  rw [Option.not_isSome_iff_eq_none] at no_reference
  obtain ⟨no_group, no_delete, no_update⟩ := normal.noReference no_reference
  rw [no_group, no_delete, no_update] at keyed
  rcases keyed with group | delete | update
  · cases group
  · cases delete
  · cases update

end IsNormal

/-- The constraint of a list of tokens is that of the last token of each kind, in any order.  So it
does not change if tokens change places and those of each kind keep their order.  In it a unique
group makes the field unique, an index is named as its tag names it and none is unique without a
name, and only a reference has a group and actions. -/
theorem ofTokens_eq_ofTokens_lastOfKinds
    (column : String)
    (tokens : List Token) :
    (∀ kept, kept.Perm (lastOfKinds tokens) → ofTokens column kept = ofTokens column tokens) ∧
      (∀ others, (∀ kind, kind ≠ .unrecognized → ofKind kind others = ofKind kind tokens) →
        ofTokens column others = ofTokens column tokens) ∧
      ((ofTokens column tokens).uniqueGroup.isSome → (ofTokens column tokens).isUnique) ∧
      (∀ name, (ofTokens column tokens).indexGroup = some name →
        (ofTokens column tokens).indexName = some name) ∧
      ((ofTokens column tokens).indexIsUnique → (ofTokens column tokens).indexName.isSome) ∧
      ((ofTokens column tokens).foreignKeyGroup.isSome ∨
          (ofTokens column tokens).onDelete.isSome ∨ (ofTokens column tokens).onUpdate.isSome →
        (ofTokens column tokens).reference.isSome) := by
  have normal := isNormal_ofTokens column tokens
  refine ⟨fun kept => ofTokens_eq_of_perm_lastOfKinds, fun others same => ?_, normal.isUnique,
    fun name => normal.indexName_of_indexGroup, normal.isSome_indexName, normal.isSome_reference⟩
  calc ofTokens column others
      = ofTokens column (lastOfKinds others) :=
        (ofTokens_eq_of_perm_lastOfKinds (List.Perm.refl _)).symm
    _ = ofTokens column tokens := ofTokens_eq_of_perm_lastOfKinds (Tag.lastOfKinds_perm same)

/-- Tokens of a column that references an account, each part of it stated anew. -/
def revisedTokens : List Token :=
  [.foreignKey ⟨none, "users", "id", none, some .cascade⟩, .index false none, .unique,
    .unrecognized "nullable", .foreignKey ⟨some "owner", "accounts", "id", some .restrict, none⟩,
    .uniqueGroup "one_owner", .index true (some "by_owner")]

/-- Nothing is left of the first reference and the first index, whatever comes between the tokens
that count. -/
theorem ofTokens_eq_ofTokens_lastOfKinds_revisedTokens :
    ofTokens "owner_id"
        [.index true (some "by_owner"), .uniqueGroup "one_owner", .unique,
          .foreignKey ⟨some "owner", "accounts", "id", some .restrict, none⟩] =
          ofTokens "owner_id" revisedTokens ∧
      ofTokens "owner_id"
          [.uniqueGroup "one_owner", .index false none, .index true (some "by_owner"),
            .foreignKey ⟨none, "users", "id", none, some .cascade⟩,
            .foreignKey ⟨some "owner", "accounts", "id", some .restrict, none⟩, .unique] =
        ofTokens "owner_id" revisedTokens ∧
      (ofTokens "owner_id" revisedTokens).isUnique ∧
      (ofTokens "owner_id" revisedTokens).indexName = some "by_owner" ∧
      (ofTokens "owner_id" revisedTokens).indexName.isSome ∧
      (ofTokens "owner_id" revisedTokens).reference.isSome := by
  obtain ⟨any_order, reordered, unique, named, indexed, referenced⟩ :=
    ofTokens_eq_ofTokens_lastOfKinds "owner_id" revisedTokens
  refine ⟨any_order _ (by decide), reordered _ fun kind recognized => ?_, unique rfl, named _ rfl,
    indexed rfl, referenced (.inl rfl)⟩
  cases kind with
  | unrecognized => exact absurd rfl recognized
  | _ => rfl

end Constraint
end Tablewright
