import RowQuery.Proofs.Messages
import RowQuery.Proofs.Naming

/-! The grammar of conditions. What a value spells is a relation of its own, with a rule for each
form a leaf, a group and a child may have. The forms overlap: a pair may be a named child, a leaf
with one value or a group of two. A name holds no placeholder, so it is no leaf with a value, and
every value spells one condition at most: the one it is read as. -/

namespace RowQuery

namespace Condition

mutual

/-- A value spells a condition. -/
inductive Spells : Value → Condition → Prop
  /-- A ready-made leaf spells itself. -/
  | leaf (sql : String) (args : List Value) : Spells (.condition (.leaf sql args)) (.leaf sql args)
  /-- A ready-made group spells itself. -/
  | group (cs : List (Combinator × Condition)) : Spells (.condition (.group cs)) (.group cs)
  /-- A text without values is a leaf. -/
  | text {sql : String} (h : IsLeaf sql []) : Spells (.text sql) (.leaf sql [])
  /-- A sequence that starts with a text is a leaf. -/
  | texts {v : Value} {sql : String} {args : List Value} (hv : v.items? = some (.text sql :: args))
    (h : IsLeaf sql args) : Spells v (.leaf sql args)
  /-- Any other sequence of children is a group. -/
  | items {v item : Value} {items : List Value} {cs : List (Combinator × Condition)}
    (hv : v.items? = some (item :: items)) (hi : ∀ s, item ≠ .text s)
    (h : SpellEach (item :: items) cs) : Spells v (.group cs)

/-- A value spells a child of a group. -/
inductive SpellsChild : Value → Combinator × Condition → Prop
  /-- A sequence of a name and a condition. -/
  | pair {v name node : Value} {k : Combinator} {c : Condition} (hv : v.items? = some [name, node])
    (hn : k.Named name) (h : Spells node c) : SpellsChild v (k, c)
  /-- A mapping of one name to a condition. -/
  | entry {name node : Value} {k : Combinator} {c : Condition} (hn : k.Named name)
    (h : Spells node c) : SpellsChild (.map [(name, node)]) (k, c)
  /-- A condition alone, which is joined by `and`. -/
  | whole {v : Value} {c : Condition} (h : Spells v c) : SpellsChild v (.and, c)

/-- Values spell the children of a group, one each. -/
inductive SpellEach : List Value → List (Combinator × Condition) → Prop
  | nil : SpellEach [] []
  | cons {v : Value} {vs : List Value} {child : Combinator × Condition}
    {cs : List (Combinator × Condition)} (h : SpellsChild v child) (hs : SpellEach vs cs) :
    SpellEach (v :: vs) (child :: cs)

end

/-! ### What is read is spelled -/

/-- A value is read as nothing but what it spells. -/
def ReadsSpelled (v : Value) : Prop := ∀ c, read v = .ok c → Spells v c

theorem read_of_items {v : Value} {items : List Value} (hv : v.items? = some items) :
    read v = ofItems items (readChildren items) := by
  rcases Value.items?_eq_some.mp hv with rfl | rfl <;> rw [read]

theorem readWhole_spells {item : Value} {child : Combinator × Condition} (hitem : ReadsSpelled item)
    (h : readWhole item = .ok child) : SpellsChild item child := by
  obtain ⟨c, hc, rfl⟩ := Result.map_eq_ok.mp h
  exact .whole (hitem c hc)

theorem readNamed_spells {v name node : Value} {child : Combinator × Condition}
    {otherwise : Except ArgumentError (Combinator × Condition)} (hnode : ReadsSpelled node)
    (hv : ∀ k c, k.Named name → Spells node c → SpellsChild v (k, c))
    (ho : otherwise = .ok child → SpellsChild v child)
    (h : readNamed name node otherwise = .ok child) : SpellsChild v child := by
  unfold readNamed at h
  split at h
  · rename_i k hk
    obtain ⟨c, hc, rfl⟩ := Result.map_eq_ok.mp h
    exact hv k c (Combinator.ofName?_eq_some_iff.mp hk) (hnode c hc)
  · exact ho h

theorem readChild_spells {item : Value} {child : Combinator × Condition}
    (hitem : ReadsSpelled item) (hparts : ∀ u ∈ item.parts, ReadsSpelled u)
    (h : readChild item = .ok child) : SpellsChild item child := by
  unfold readChild at h
  split at h
  · rename_i name node
    have ho : (.error (.unknownCombinator name) : Except ArgumentError _) = .ok child →
        SpellsChild (.map [(name, node)]) child := fun he => nomatch he
    exact readNamed_spells (hparts node (by simp [Value.parts])) (fun _ _ hn hc => .entry hn hc)
      ho h
  · contradiction
  · rename_i name node
    exact readNamed_spells (hparts node (by simp [Value.parts])) (fun _ _ hn hc => .pair rfl hn hc)
      (readWhole_spells hitem) h
  · rename_i name node
    exact readNamed_spells (hparts node (by simp [Value.parts])) (fun _ _ hn hc => .pair rfl hn hc)
      (readWhole_spells hitem) h
  · exact readWhole_spells hitem h

theorem readChildren_spell {items : List Value}
    (h : ∀ item ∈ items, ReadsSpelled item ∧ ∀ u ∈ item.parts, ReadsSpelled u)
    {cs : List (Combinator × Condition)} (hr : readChildren items = .ok cs) :
    SpellEach items cs := by
  induction items generalizing cs with
  | nil =>
    rw [readChildren] at hr
    obtain rfl := Except.ok.inj hr
    exact .nil
  | cons item items ih =>
    rw [readChildren_cons] at hr
    obtain ⟨first, hfirst, hr⟩ := Result.bind_eq_ok.mp hr
    obtain ⟨rest, hrest, hr⟩ := Result.bind_eq_ok.mp hr
    obtain rfl := Except.ok.inj hr
    have hi := h item List.mem_cons_self
    exact .cons (readChild_spells hi.1 hi.2 hfirst)
      (ih (fun u hu => h u (List.mem_cons_of_mem item hu)) hrest)

theorem ofItems_spells {v : Value} {items : List Value} (hv : v.items? = some items)
    (h : ∀ item ∈ items, ReadsSpelled item ∧ ∀ u ∈ item.parts, ReadsSpelled u) {c : Condition}
    (hr : ofItems items (readChildren items) = .ok c) : Spells v c := by
  unfold ofItems at hr
  split at hr
  · contradiction
  · obtain ⟨rfl, hl⟩ := ofText_eq_ok hr
    exact .texts hv hl
  · rename_i hnil htext
    obtain ⟨cs, hcs, rfl⟩ := Result.map_eq_ok.mp hr
    cases items with
    | nil => exact absurd rfl hnil
    | cons item items =>
      exact .items hv (fun s hs => htext s items (hs ▸ rfl)) (readChildren_spell h hcs)

theorem read_spells (v : Value) : ReadsSpelled v := by
  -- a child may stand two levels inside its group, so the parts are carried along
  suffices hs : ReadsSpelled v ∧ ∀ u ∈ v.parts, ReadsSpelled u from hs.1
  induction v using Value.parts_induction with
  | step v ih =>
    refine ⟨fun c hr => ?_, fun u hu => (ih u hu).1⟩
    unfold read at hr
    split at hr
    · obtain rfl := Except.ok.inj hr
      exact .leaf _ _
    · obtain rfl := Except.ok.inj hr
      exact .group _
    · obtain ⟨rfl, hl⟩ := ofText_eq_ok hr
      exact .text hl
    · exact ofItems_spells rfl ih hr
    · exact ofItems_spells rfl ih hr
    · contradiction

/-! ### What is spelled is read -/

/-- A name in the place of a text makes no leaf with one value. -/
theorem not_spells_pair {v name node : Value} {k : Combinator} (hn : k.Named name)
    (hv : v.items? = some [name, node]) (c : Condition) : ¬ Spells v c := by
  obtain ⟨_, _, _, hs, -⟩ := id hn
  intro h
  cases h with
  | leaf | group | text => contradiction
  | texts hv' hl =>
    rw [hv] at hv'
    obtain ⟨hname, hargs⟩ := List.cons.inj (Option.some.inj hv')
    rw [hname] at hn
    have hcount := (isLeaf_iff.mp hl).1
    rw [hn.placeholders_eq, ← hargs] at hcount
    contradiction
  | items hv' hi =>
    rw [hv] at hv'
    exact hi _ ((List.cons.inj (Option.some.inj hv')).1 ▸ hs)

theorem readNamed_of_named {name node : Value} {k : Combinator} {c : Condition}
    {otherwise : Except ArgumentError (Combinator × Condition)} (hn : k.Named name)
    (h : read node = .ok c) : readNamed name node otherwise = .ok (k, c) := by
  rw [readNamed, Combinator.ofName?_eq_some_iff.mpr hn, h]
  rfl

theorem readChild_pair {v name node : Value} (hv : v.items? = some [name, node]) :
    readChild v = readNamed name node (readWhole v) := by
  rcases Value.items?_eq_some.mp hv with rfl | rfl <;> rfl

theorem readChild_whole {v : Value} {c : Condition} (hs : Spells v c) (hr : read v = .ok c) :
    readChild v = .ok (.and, c) := by
  have hw : readWhole v = .ok (.and, c) := by
    rw [readWhole, hr]
    rfl
  have hpair : ∀ name node, v.items? = some [name, node] → readChild v = .ok (.and, c) := by
    intro name node hv
    rw [readChild_pair hv, readNamed]
    split
    · rename_i k hk
      exact absurd hs (not_spells_pair (Combinator.ofName?_eq_some_iff.mp hk) hv c)
    · exact hw
  unfold readChild
  split
  · cases hs <;> contradiction
  · cases hs <;> contradiction
  · exact hpair _ _ rfl
  · exact hpair _ _ rfl
  · exact hw

mutual

theorem Spells.read_eq : ∀ {v : Value} {c : Condition}, Spells v c → read v = .ok c
  | _, _, .leaf sql args => by rw [read]
  | _, _, .group cs => by rw [read]
  | _, _, .text h => by
    rw [read]
    exact h
  | _, _, .texts hv h => by
    rw [read_of_items hv, ofItems]
    exact h
  | _, _, .items hv hi h => by
    rw [read_of_items hv, ofItems, h.readChildren_eq]
    · rfl
    · exact fun he => nomatch he
    · exact fun s args he => hi s (List.cons.inj he).1

theorem SpellsChild.readChild_eq : ∀ {v : Value} {child : Combinator × Condition},
    SpellsChild v child → readChild v = .ok child
  | _, _, .pair hv hn h => by rw [readChild_pair hv, readNamed_of_named hn h.read_eq]
  | _, _, .entry hn h => readNamed_of_named hn h.read_eq
  | _, _, .whole h => readChild_whole h h.read_eq

theorem SpellEach.readChildren_eq : ∀ {vs : List Value} {cs : List (Combinator × Condition)},
    SpellEach vs cs → readChildren vs = .ok cs
  | _, _, .nil => by rw [readChildren]
  | _, _, .cons h hs => by
    rw [readChildren_cons, h.readChild_eq, hs.readChildren_eq]
    rfl

end

theorem read_eq_ok_iff {v : Value} {c : Condition} : read v = .ok c ↔ Spells v c :=
  ⟨read_spells v c, Spells.read_eq⟩

/-- The values that clear conditions: nothing, and whatever is empty. -/
def Clears (v : Value) : Prop := v = .null ∨ v = .text "" ∨ v = .list [] ∨ v = .tuple []

theorem ofArguments_of_clears {v : Value} (h : Clears v) : ofArguments v [] = .ok none := by
  rcases h with rfl | rfl | rfl | rfl <;> rfl

/-- Without further arguments, a value that does not clear conditions is read as it stands, and a
value of a wrong type fails in its own way. -/
theorem ofArguments_of_not_clears {v : Value} (h : ¬ Clears v) :
    ofArguments v [] = (read v).map some ∨
      ((∃ e, read v = .error e) ∧ ∃ e, ofArguments v [] = .error e) := by
  unfold Clears at h
  push Not at h
  obtain ⟨hnull, htext, hlist, htuple⟩ := h
  cases v with
  | null => contradiction
  | text s =>
    have hs : s.isEmpty = false := by simpa using htext
    left
    rw [read, ofArguments]
    simp only [hs, Bool.false_and, Bool.false_eq_true, ↓reduceIte]
  | list items =>
    cases items with
    | nil => contradiction
    | cons item items => exact .inl rfl
  | tuple items =>
    cases items with
    | nil => contradiction
    | cons item items => exact .inl rfl
  | condition c =>
    cases c with
    | stray v => exact .inr ⟨⟨_, rfl⟩, ⟨_, rfl⟩⟩
    | _ => exact .inl rfl
  | _ => exact .inr ⟨⟨_, rfl⟩, ⟨_, rfl⟩⟩

/-- A text with its values is read like the sequence of both. -/
theorem ofArguments_text {s : String} (hs : s ≠ "") (args : List Value) :
    ofArguments (.text s) args = ofArguments (.list (.text s :: args)) [] := by
  have he : s.isEmpty = false := by simpa using hs
  have hl : ofArguments (.list (.text s :: args)) [] = (read (.list (.text s :: args))).map some :=
    rfl
  rw [hl, read, ofItems, ofArguments]
  simp only [he, Bool.false_and, Bool.false_eq_true, ↓reduceIte]

/-- An integer of too many digits spells no condition, and the refusal cannot show it. -/
example : (match ofArguments (.list [.int (Nat.pow 10 Text.maxDigits : Nat)]) [] with
    | .error e => e.isWritable
    | .ok _ => true) = false := by
  decide +kernel

/-- Children in all three forms, with a name as a leaf of its own and an empty group inside. -/
def mixed : Value :=
  .tuple [.list [.text "a = ?", .int 1], .list [.text " oR\n", .text "xor"],
    .map [(.text "XOR", .list [.condition (.group []), .text "b"])]]

/-- The tree that `mixed` spells. -/
def mixedTree : Condition :=
  .group [(.and, .leaf "a = ?" [.int 1]), (.or, .leaf "xor" []),
    (.xor, .group [(.and, .group []), (.and, .leaf "b" [])])]

theorem mixed_spells : Spells mixed mixedTree := by
  have hleaf : ∀ {sql : String} {args : List Value}, (Sql.placeholders sql).length = args.length →
      (∀ v ∈ args, v.items? ≠ some []) → IsLeaf sql args := fun h ha => isLeaf_iff.mpr ⟨h, ha⟩
  have hor : Combinator.or.Named (.text " oR\n") :=
    ⟨[' '], ['o', 'R'], ['\n'], rfl, by simp [Text.isBlank], by simp [Text.isBlank], rfl⟩
  have hxor : Combinator.xor.Named (.text "XOR") :=
    ⟨[], ['X', 'O', 'R'], [], rfl, by simp, by simp, rfl⟩
  have ha : IsLeaf "a = ?" [.int 1] := hleaf (by decide) (by simp [Value.items?])
  have hx : IsLeaf "xor" [] := hleaf (by decide) (by simp)
  have hb : IsLeaf "b" [] := hleaf (by decide) (by simp)
  refine .items rfl (by simp) (.cons (.whole (.texts rfl ha)) (.cons ?_ (.cons ?_ .nil)))
  · exact .pair rfl hor (.text hx)
  · exact .entry hxor (.items rfl (by simp)
      (.cons (.whole (.group [])) (.cons (.whole (.text hb)) .nil)))

end Condition

end RowQuery
