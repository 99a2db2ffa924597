import RunBoard.Json.Printer
import RunBoard.Json.Reader
import RunBoard.Proofs.Json.Members
import RunBoard.Proofs.Text.Percent

/-!
# Compact texts are read back

The reader takes one character at a time, so what it makes of a text is followed part by
part: an escape puts its character, a quoted text its value, and an array or object is
delivered to whatever is open around it. Numbers are left out here, as their digits are a
matter of their own.
-/

namespace RunBoard.Json

/-! ## Values without numbers -/

mutual

/-- Whether a value holds words and texts only, its members in ascending order of their keys. -/
def Wordy : Json → Prop
  | .int _ | .float _ => False
  | .arr items => WordyItems items
  | .obj members =>
      members.Pairwise (fun first second => first.1 < second.1) ∧ WordyMembers members
  | _ => True

def WordyItems : List Json → Prop
  | [] => True
  | item :: rest => Wordy item ∧ WordyItems rest

def WordyMembers : List (String × Json) → Prop
  | [] => True
  | (_, value) :: rest => Wordy value ∧ WordyMembers rest

end

mutual

/-- How many arrays and objects stand within one another. -/
def depth : Json → Nat
  | .arr items => depthItems items + 1
  | .obj members => depthMembers members + 1
  | _ => 0

def depthItems : List Json → Nat
  | [] => 0
  | item :: rest => max (depth item) (depthItems rest)

def depthMembers : List (String × Json) → Nat
  | [] => 0
  | (_, value) :: rest => max (depth value) (depthMembers rest)

end

mutual

/-- What a value is read as, its parts in the order of the text. -/
def written : Json → Written
  | .arr items => .arr (writtenItems items) none
  | .obj members => .obj (writtenMembers members) none
  | plain => .plain plain

def writtenItems : List Json → List Written
  | [] => []
  | item :: rest => written item :: writtenItems rest

def writtenMembers : List (String × Json) → List (String × Written)
  | [] => []
  | (key, value) :: rest => (key, written value) :: writtenMembers rest

end

theorem wordyItems_iff {items : List Json} : WordyItems items ↔ ∀ item ∈ items, item.Wordy := by
  induction items with
  | nil => simp [WordyItems]
  | cons item rest ih => simp [WordyItems, ih]

theorem wordyMembers_iff {members : List (String × Json)} :
    WordyMembers members ↔ ∀ member ∈ members, member.2.Wordy := by
  induction members with
  | nil => simp [WordyMembers]
  | cons member rest ih => simp [WordyMembers, ih]

theorem depthItems_le {items : List Json} {bound : Nat}
    (below : ∀ item ∈ items, item.depth ≤ bound) : depthItems items ≤ bound := by
  induction items with
  | nil => exact Nat.zero_le bound
  | cons item rest ih =>
      obtain ⟨here, behind⟩ := List.forall_mem_cons.mp below
      exact Nat.max_le.mpr ⟨here, ih behind⟩

theorem depthMembers_le {members : List (String × Json)} {bound : Nat}
    (below : ∀ member ∈ members, member.2.depth ≤ bound) : depthMembers members ≤ bound := by
  induction members with
  | nil => exact Nat.zero_le bound
  | cons member rest ih =>
      obtain ⟨here, behind⟩ := List.forall_mem_cons.mp below
      exact Nat.max_le.mpr ⟨here, ih behind⟩

/-- An object made of such values is one. -/
theorem wordy_ofMembers {members : List (String × Json)}
    (wordy : ∀ member ∈ members, member.2.Wordy) : (ofMembers members).Wordy := by
  rw [ofMembers_eq_ofList]
  refine ⟨(KeyMap.ofList members).ascending, wordyMembers_iff.mpr fun member inside => ?_⟩
  exact wordy member (KeyMap.mem_of_mem_ofList inside)

theorem depth_ofMembers_le {members : List (String × Json)} {bound : Nat}
    (below : ∀ member ∈ members, member.2.depth ≤ bound) :
    (ofMembers members).depth ≤ bound + 1 := by
  rw [ofMembers_eq_ofList]
  refine Nat.succ_le_succ (depthMembers_le fun member inside => ?_)
  exact below member (KeyMap.mem_of_mem_ofList inside)

/-! ## What is read as a value -/

mutual

/-- A value comes out of what it is read as. -/
theorem ofWritten_written : (json : Json) → json.Wordy → ofWritten json.written = .ok json
  | .null, _ | .bool _, _ | .str _, _ => rfl
  | .arr items, wordy => by
      rw [written, ofWritten, ofWrittenItems_written items wordy]
      rfl
  | .obj members, wordy => by
      rw [written, ofWritten, ofWrittenMembers_written members wordy.2]
      exact congrArg Except.ok (ofMembers_of_ascending wordy.1)

theorem ofWrittenItems_written : (items : List Json) → WordyItems items →
    ofWrittenItems (writtenItems items) = .ok items
  | [], _ => rfl
  | item :: rest, wordy => by
      rw [writtenItems, ofWrittenItems, ofWritten_written item wordy.1,
        ofWrittenItems_written rest wordy.2]
      rfl

theorem ofWrittenMembers_written : (members : List (String × Json)) → WordyMembers members →
    ofWrittenMembers (writtenMembers members) = .ok members
  | [], _ => rfl
  | (key, value) :: rest, wordy => by
      rw [writtenMembers, ofWrittenMembers, ofWritten_written value wordy.1,
        ofWrittenMembers_written rest wordy.2]
      rfl

end

/-! ## Reading on -/

/-- What becomes of the state of the reader over some characters. -/
inductive Reads : State → List Char → State → Prop where
  | nil {state : State} : Reads state [] state
  | cons {state next last : State} {c : Char} {rest : List Char}
      (first : state.step (some c) = .ok next) (behind : Reads next rest last) :
      Reads state (c :: rest) last

namespace Reads

theorem append {state next last : State} {chars more : List Char}
    (first : Reads state chars next) (behind : Reads next more last) :
    Reads state (chars ++ more) last := by
  induction first with
  | nil => exact behind
  | cons step _ ih => exact .cons step (ih behind)

theorem single {state next : State} {c : Char} (step : state.step (some c) = .ok next) :
    Reads state [c] next :=
  .cons step .nil

theorem readFrom_eq {state last : State} {chars : List Char} (reads : Reads state chars last)
    (count : Nat) (rest : List (Option Char)) :
    readFrom state count (chars.map some ++ rest) = readFrom last (count + chars.length) rest := by
  induction reads generalizing count with
  | nil => rfl
  | cons step _ ih =>
      simp only [List.map_cons, List.cons_append, readFrom, step, ih, List.length_cons]
      congr 1
      omega

end Reads

namespace State

variable (state : State)

/-- Whether a value may begin here. -/
def TakesValue : Prop :=
  state.mode = .value ∨ state.mode = .firstItem ∨ state.mode = .nextItem

/-- Whether a key may begin here. -/
def TakesKey : Prop := state.mode = .firstKey ∨ state.mode = .nextKey

/-- The state within a text of which these characters have been read, the last one first. -/
def within (isKey : Bool) (seen : List Char) : State :=
  { state with mode := .string ⟨isKey, seen, false⟩ }

theorem step_of_takesValue {state : State} (takes : state.TakesValue) {c : Char}
    (solid : isBlank c = false) (other : c ≠ ']') :
    state.step (some c) = state.beginValue c := by
  rcases takes with mode | mode | mode <;> simp [step, mode, solid, other]

theorem deliver_mode (mode : Mode) (value : Written) :
    { state with mode := mode }.deliver value = state.deliver value := by
  obtain ⟨_, _ | ⟨_ | _, _⟩, _⟩ := state <;> rfl

end State

/-! ## Texts -/

/-- The digit of a number below sixteen has that value. -/
theorem hexValue?_digit {n : Nat} (bound : n < 16) :
    State.hexValue? (some (Text.Hex.digit n)) = some n := by
  have all : ∀ n : Fin 16, State.hexValue? (some (Text.Hex.digit n)) = some n.val := by decide
  exact all ⟨n, bound⟩

/-- A mark behind a backslash puts the character that it stands for. -/
theorem reads_mark {state : State} {isKey : Bool} {seen : List Char} {mark c : Char}
    (stands : (state.within isKey seen).inEscape ⟨isKey, seen, false⟩ (some mark) =
      .ok (state.within isKey (c :: seen))) :
    Reads (state.within isKey seen) ['\\', mark] (state.within isKey (c :: seen)) :=
  .cons rfl (.single stands)

/-- A control character is written as its code, in four digits. -/
theorem reads_code (state : State) (isKey : Bool) (seen : List Char) {c : Char}
    (control : c.toNat < 0x20) :
    Reads (state.within isKey seen)
      ['\\', 'u', '0', '0', Text.Hex.digit (c.toNat / 16), Text.Hex.digit (c.toNat % 16)]
      (state.within isKey (c :: seen)) := by
  have high := hexValue?_digit (n := c.toNat / 16) (by omega)
  have low := hexValue?_digit (n := c.toNat % 16) (by omega)
  have zero : State.hexValue? (some '0') = some 0 := by decide
  have unit : State.codeUnit? [some (Text.Hex.digit (c.toNat % 16)),
      some (Text.Hex.digit (c.toNat / 16)), some '0', some '0'] = some c.toNat := by
    simp only [State.codeUnit?, List.foldr_cons, List.foldr_nil, high, low, zero,
      Option.bind_eq_bind, Option.bind_some, Option.pure_def, Option.some.injEq]
    omega
  refine .cons rfl (.cons rfl (.cons rfl (.cons rfl (.cons rfl (.single ?_)))))
  rw [State.step]
  simp only [State.within, List.length_cons, List.length_nil, Nat.reduceAdd, Nat.lt_irrefl,
    if_false, unit, State.endHex]
  have unpaired : ¬ 0xD800 ≤ c.toNat ∧ ¬ 0xDC00 ≤ c.toNat := by omega
  simp [unpaired, Char.ofNat_toNat]

/-- An escape puts its character. -/
theorem reads_escape (state : State) (isKey : Bool) (seen : List Char) (c : Char) :
    Reads (state.within isKey seen) (escape c) (state.within isKey (c :: seen)) := by
  by_cases quote : c = '"'
  · subst quote
    exact reads_mark rfl
  by_cases slash : c = '\\'
  · subst slash
    exact reads_mark rfl
  by_cases back : c = '\x08'
  · subst back
    exact reads_mark rfl
  by_cases feed : c = '\x0c'
  · subst feed
    exact reads_mark rfl
  by_cases line : c = '\n'
  · subst line
    exact reads_mark rfl
  by_cases carriage : c = '\r'
  · subst carriage
    exact reads_mark rfl
  by_cases tab : c = '\t'
  · subst tab
    exact reads_mark rfl
  simp only [escape, quote, slash, back, feed, line, carriage, tab, if_false]
  by_cases control : c.toNat < 0x20
  · rw [if_pos control]
    exact reads_code state isKey seen control
  · rw [if_neg control]
    refine .single ?_
    simp [State.within, State.step, State.inString, quote, slash, control]

/-- The characters of a text are put one after the other. -/
theorem reads_escapes (state : State) (isKey : Bool) (seen text : List Char) :
    Reads (state.within isKey seen) (text.flatMap escape)
      (state.within isKey (text.reverse ++ seen)) := by
  induction text generalizing seen with
  | nil => exact .nil
  | cons c rest ih =>
      rw [List.flatMap_cons, List.reverse_cons, List.append_assoc]
      exact (reads_escape state isKey seen c).append (ih (c :: seen))

/-- A quoted text in the place of a value is delivered. -/
theorem reads_quoted_value {state : State} (takes : state.TakesValue) (text : String) :
    Reads state (quoted text) (state.deliver (.plain (.str text))) := by
  have opened : state.step (some '"') = .ok (state.within false []) :=
    State.step_of_takesValue takes rfl (by decide)
  have closed : (state.within false text.toList.reverse).step (some '"') =
      .ok (state.deliver (.plain (.str text))) := by
    simp [State.step, State.within, State.inString, State.deliver_mode]
  refine .cons opened ?_
  simpa using (reads_escapes state false [] text.toList).append (.single (by simpa using closed))

/-- A quoted text in the place of a key waits for the colon. -/
theorem reads_quoted_key {state : State} (takes : state.TakesKey) (key : String) :
    Reads state (quoted key) { state with mode := .colon key } := by
  have opened : state.step (some '"') = .ok (state.within true []) := by
    rcases takes with mode | mode <;> simp [State.step, State.within, mode, isBlank]
  have closed : (state.within true key.toList.reverse).step (some '"') =
      .ok { state with mode := .colon key } := by
    simp [State.step, State.within, State.inString]
  refine .cons opened ?_
  simpa using (reads_escapes state true [] key.toList).append (.single (by simpa using closed))

/-! ## Arrays and objects -/

section Frames

variable {state : State} {items : List Written} {members : List (String × Written)}
  {key : String} {outer : List Frame}

theorem deliver_in_array (inside : state.open_ = .arr items :: outer) (value : Written) :
    state.deliver value =
      { state with mode := .after, open_ := .arr (value :: items) :: outer } := by
  rw [State.deliver, inside]

theorem deliver_in_object (inside : state.open_ = .obj members key :: outer) (value : Written) :
    state.deliver value =
      { state with mode := .after, open_ := .obj ((key, value) :: members) key :: outer } := by
  rw [State.deliver, inside]

theorem step_close_array (mode : state.mode = .firstItem ∨ state.mode = .after)
    (inside : state.open_ = .arr items :: outer) :
    state.step (some ']') =
      .ok ({ state with open_ := outer }.deliver (.arr items.reverse none)) := by
  rcases mode with mode | mode <;>
    simp [State.step, mode, State.afterValue, State.leave, inside, isBlank]

theorem step_close_object (mode : state.mode = .firstKey ∨ state.mode = .after)
    (inside : state.open_ = .obj members key :: outer) :
    state.step (some '}') =
      .ok ({ state with open_ := outer }.deliver (.obj members.reverse none)) := by
  rcases mode with mode | mode <;>
    simp [State.step, mode, State.afterValue, State.leave, inside, isBlank]

theorem step_comma_in_array (mode : state.mode = .after)
    (inside : state.open_ = .arr items :: outer) :
    state.step (some ',') = .ok { state with mode := .nextItem } := by
  simp [State.step, mode, State.afterValue, inside, isBlank]

theorem step_comma_in_object (mode : state.mode = .after)
    (inside : state.open_ = .obj members key :: outer) :
    state.step (some ',') = .ok { state with mode := .nextKey } := by
  simp [State.step, mode, State.afterValue, inside, isBlank]

theorem step_colon (inside : state.open_ = .obj members key :: outer) (next : String) :
    { state with mode := .colon next }.step (some ':') =
      .ok { state with mode := .value, open_ := .obj members next :: outer } := by
  simp [State.step, inside, isBlank]

theorem step_open_array (takes : state.TakesValue) (room : state.open_.length < 127) :
    state.step (some '[') =
      .ok { state with mode := .firstItem, open_ := .arr [] :: state.open_ } := by
  rw [State.step_of_takesValue takes rfl (by decide)]
  simp [State.beginValue, State.enter, room]

theorem step_open_object (takes : state.TakesValue) (room : state.open_.length < 127) :
    state.step (some '{') =
      .ok { state with mode := .firstKey, open_ := .obj [] "" :: state.open_ } := by
  rw [State.step_of_takesValue takes rfl (by decide)]
  simp [State.beginValue, State.enter, room]

end Frames

/-- A key, the colon and a value that is delivered make one more member. -/
theorem reads_member {state : State} {seen : List (String × Written)} {key : String}
    {outer : List Frame} (takes : state.TakesKey) (inside : state.open_ = .obj seen key :: outer)
    (name : String) {chars : List Char} {value : Written}
    (delivered : ∀ inner : State, inner.TakesValue →
      inner.open_.length = state.open_.length → Reads inner chars (inner.deliver value)) :
    Reads state (quoted name ++ ':' :: chars)
      { state with mode := .after, open_ := .obj ((name, value) :: seen) name :: outer } := by
  have reads := delivered { state with mode := .value, open_ := .obj seen name :: outer }
    (.inl rfl) (by simp only [inside, List.length_cons])
  rw [deliver_in_object rfl] at reads
  exact (reads_quoted_key takes name).append (.cons (step_colon inside name) reads)

/-- A word is read to its end. -/
theorem reads_word {state : State} (takes : state.TakesValue) :
    Reads state ['n', 'u', 'l', 'l'] (state.deliver (.plain .null)) ∧
      Reads state ['t', 'r', 'u', 'e'] (state.deliver (.plain (.bool true))) ∧
      Reads state ['f', 'a', 'l', 's', 'e'] (state.deliver (.plain (.bool false))) := by
  refine ⟨?_, ?_, ?_⟩ <;>
    refine .cons (State.step_of_takesValue takes rfl (by decide)) ?_
  · exact .cons rfl (.cons rfl (.single rfl))
  · exact .cons rfl (.cons rfl (.single rfl))
  · exact .cons rfl (.cons rfl (.cons rfl (.single rfl)))

-- The recursion is on the value. Of what is open around it only the depth counts, as the
-- reader refuses to go deeper than 127.
mutual

/-- The text of a value delivers the value, wherever one may begin and is not too deep. -/
theorem reads_compact : (json : Json) → json.Wordy → (state : State) → state.TakesValue →
    state.open_.length + json.depth ≤ 127 →
    Reads state json.compactChars (state.deliver json.written)
  | .null, _, _, takes, _ => (reads_word takes).1
  | .bool true, _, _, takes, _ => (reads_word takes).2.1
  | .bool false, _, _, takes, _ => (reads_word takes).2.2
  | .str text, _, _, takes, _ => reads_quoted_value takes text
  | .arr [], _, state, takes, room => by
      have below : state.open_.length + (0 + 1) ≤ 127 := room
      refine .cons (step_open_array takes (by omega)) (.single ?_)
      rw [step_close_array (.inl rfl) rfl]
      exact congrArg Except.ok (state.deliver_mode _ _)
  | .arr (item :: rest), wordy, state, takes, room => by
      have below : state.open_.length + (depthItems (item :: rest) + 1) ≤ 127 := room
      have inside := reads_items (item :: rest) (List.cons_ne_nil _ _) wordy
        { state with mode := .firstItem, open_ := .arr [] :: state.open_ }
        (.inr (.inl rfl)) rfl (by simp only [List.length_cons]; omega)
      refine .cons (step_open_array takes (by omega)) (inside.append (.single ?_))
      rw [step_close_array (.inr rfl) rfl, List.append_nil, List.reverse_reverse]
      exact congrArg Except.ok (state.deliver_mode _ _)
  | .obj [], _, state, takes, room => by
      have below : state.open_.length + (0 + 1) ≤ 127 := room
      refine .cons (step_open_object takes (by omega)) (.single ?_)
      rw [step_close_object (.inl rfl) rfl]
      exact congrArg Except.ok (state.deliver_mode _ _)
  | .obj (member :: rest), wordy, state, takes, room => by
      have below : state.open_.length + (depthMembers (member :: rest) + 1) ≤ 127 := room
      obtain ⟨last, inside⟩ := reads_members (member :: rest) (List.cons_ne_nil _ _) wordy.2
        { state with mode := .firstKey, open_ := .obj [] "" :: state.open_ }
        (.inl rfl) rfl (by simp only [List.length_cons]; omega)
      refine .cons (step_open_object takes (by omega)) (inside.append (.single ?_))
      rw [step_close_object (.inr rfl) rfl, List.append_nil, List.reverse_reverse]
      exact congrArg Except.ok (state.deliver_mode _ _)

/-- The items of an array are delivered one by one. -/
theorem reads_items : (items : List Json) → items ≠ [] → WordyItems items → (state : State) →
    {seen : List Written} → {outer : List Frame} → state.TakesValue →
    state.open_ = .arr seen :: outer → state.open_.length + depthItems items ≤ 127 →
    Reads state (compactItems items)
      { state with mode := .after, open_ := .arr ((writtenItems items).reverse ++ seen) :: outer }
  | [], some_item, _, _, _, _, _, _, _ => absurd rfl some_item
  | [item], _, wordy, state, seen, outer, takes, inside, room => by
      simp only [depthItems] at room
      have delivered := reads_compact item wordy.1 state takes (by omega)
      rwa [deliver_in_array inside] at delivered
  | item :: next :: rest, _, wordy, state, seen, outer, takes, inside, room => by
      rw [depthItems] at room
      have delivered := reads_compact item wordy.1 state takes (by omega)
      rw [deliver_in_array inside] at delivered
      have later := reads_items (next :: rest) (List.cons_ne_nil _ _) wordy.2
        { state with mode := .nextItem, open_ := .arr (item.written :: seen) :: outer }
        (.inr (.inr rfl)) rfl (by simp only [inside, List.length_cons] at room ⊢; omega)
      have whole := delivered.append (.cons (step_comma_in_array rfl rfl) later)
      simpa [compactItems, writtenItems] using whole

/-- The members of an object are delivered one by one, each under its key. The key that the
open object is left with is that of the last member. -/
theorem reads_members : (members : List (String × Json)) → members ≠ [] →
    WordyMembers members → (state : State) → {seen : List (String × Written)} → {key : String} →
    {outer : List Frame} → state.TakesKey → state.open_ = .obj seen key :: outer →
    state.open_.length + depthMembers members ≤ 127 →
    ∃ last, Reads state (compactMembers members)
      { state with
        mode := .after
        open_ := .obj ((writtenMembers members).reverse ++ seen) last :: outer }
  | [], some_member, _, _, _, _, _, _, _, _ => absurd rfl some_member
  | [(name, value)], _, wordy, state, seen, key, outer, takes, inside, room => by
      refine ⟨name, reads_member takes inside name fun inner takesValue level => ?_⟩
      refine reads_compact value wordy.1 inner takesValue ?_
      simp only [depthMembers] at room
      omega
  | (name, value) :: next :: rest, _, wordy, state, seen, key, outer, takes, inside, room => by
      rw [depthMembers] at room
      have first := reads_member takes inside name fun inner takesValue level =>
        reads_compact value wordy.1 inner takesValue (by omega)
      obtain ⟨last, later⟩ := reads_members (next :: rest) (List.cons_ne_nil _ _) wordy.2
        { state with mode := .nextKey, open_ := .obj ((name, value.written) :: seen) name :: outer }
        (.inr rfl) rfl (by simp only [inside, List.length_cons] at room ⊢; omega)
      have whole := first.append (.cons (step_comma_in_object rfl rfl) later)
      exact ⟨last, by simpa [compactMembers, writtenMembers] using whole⟩

end

/-! ## Whole texts -/

/-- The compact text of a value is read as that value, with nothing left over. -/
theorem readChars_compact {json : Json} (wordy : json.Wordy) (shallow : json.depth ≤ 127) :
    readChars (json.compactChars.map some) = ⟨json.written, none⟩ := by
  have room : State.start.open_.length + json.depth ≤ 127 := by simpa [State.start] using shallow
  have reads := reads_compact json wordy State.start (.inl rfl) room
  have whole := reads.readFrom_eq 0 []
  rw [List.append_nil] at whole
  exact whole.trans rfl

/-- Printing a value without numbers and reading its bytes gives the value back. -/
theorem parse_compact {json : Json} (wordy : json.Wordy) (shallow : json.depth ≤ 127) :
    parse (Text.Utf8.bytes json.compact) = .ok json := by
  have chars : Text.Utf8.decode (Text.Utf8.bytes json.compact) = json.compactChars.map some := by
    rw [Text.Utf8.bytes, compact, String.toList_ofList, Text.Utf8.decode_encode]
  rw [parse, chars, parseChars, readChars_compact wordy shallow]
  simp only [ofWritten_written json wordy]

end RunBoard.Json
