import Mathlib.Data.List.DropRight
import SceneGraph.Proofs.Numerals

/-!
# Written trees are read

The reader inverts the printer: an indented document is read to its end as the tree it was written from, in which the
numbers are the decimals that their texts denote. Characters of a string that are written as escapes come back as the
characters, line breaks and indentation are blanks between tokens, and each level of lists and objects takes one of
the levels that the reader allows.

* `Json.readString_written`: strings are read back.
* `Json.Fits`: trees that nest no deeper than a number of levels.
* `Json.readNested_pretty`: trees are read back, one case for each kind of tree.
* `Json.readValue_pretty`: a document is read to its end.
-/
set_option autoImplicit false

namespace SceneGraph.Json

/-! ## Strings -/

/-- The piece of a string that a written character is read as. -/
def pieceOf (c : Char) : Piece :=
  match c with
  | '"' | '\\' | '\x08' | '\x0c' | '\n' | '\r' | '\t' => .char c
  | c =>
    if c.toNat < 0x20 || c = '<' || c = '>' || c = '&' || c.toNat = 0x2028 || c.toNat = 0x2029 then .unit c.toNat
    else .char c

theorem toList_writeString (s : String) :
    (writeString s).toList = '"' :: (s.toList.flatMap (fun c => (writeChar c).toList) ++ ['"']) := by
  have hfold : ∀ (cs : List Char) (acc : String), (cs.foldl (fun acc c => acc ++ writeChar c) acc).toList =
      acc.toList ++ cs.flatMap fun c => (writeChar c).toList := by
    intro cs
    induction cs with
    | nil => simp
    | cons c rest ih => simp [ih, List.append_assoc]
  unfold writeString
  simp [String.toList_append, hfold]

/-- Four hexadecimal digits are read as the number that they were written for. -/
theorem readPieces_hex {n : Nat} (h : n < 0x40 ∨ n = 0x2028 ∨ n = 0x2029) (rest : List Char) (acc : List Piece) :
    readPieces (("\\u" ++ Text.hex 4 n).toList ++ rest) acc = readPieces rest (.unit n :: acc) := by
  have hlow : ∀ n < 0x40, (Text.hex 4 n).toList = ['0', '0', (n / 16).digitChar, (n % 16).digitChar] ∧
      hexUnit? '0' '0' (n / 16).digitChar (n % 16).digitChar = some n := by
    decide +kernel
  have hdigits : ∃ a b c d, (Text.hex 4 n).toList = [a, b, c, d] ∧ hexUnit? a b c d = some n := by
    rcases h with h | rfl | rfl
    · exact ⟨_, _, _, _, hlow n h⟩
    · exact ⟨'2', '0', '2', '8', by decide +kernel, by decide +kernel⟩
    · exact ⟨'2', '0', '2', '9', by decide +kernel, by decide +kernel⟩
  obtain ⟨a, b, c, d, htext, hunit⟩ := hdigits
  simp [String.toList_append, htext, readPieces, hunit]

theorem readPieces_writeChar (c : Char) (rest : List Char) (acc : List Piece) :
    readPieces ((writeChar c).toList ++ rest) acc = readPieces rest (pieceOf c :: acc) := by
  unfold writeChar
  split
  iterate 7 · simp [readPieces, unescape?, pieceOf]
  · rename_i hquote hslash _ _ _ _ _
    split
    · rename_i hescaped
      have hpiece : pieceOf c = .unit c.toNat := by
        unfold pieceOf
        split <;> simp_all
      simp only [Bool.or_eq_true, decide_eq_true_eq] at hescaped
      rw [hpiece]
      refine readPieces_hex ?_ rest acc
      rcases hescaped with ((((hescaped | rfl) | rfl) | rfl) | hescaped) | hescaped
      · exact .inl (by omega)
      · exact .inl (by decide)
      · exact .inl (by decide)
      · exact .inl (by decide)
      · exact .inr (.inl hescaped)
      · exact .inr (.inr hescaped)
    · rename_i hplain
      have hpiece : pieceOf c = .char c := by
        unfold pieceOf
        split <;> simp_all
      simp only [Bool.or_eq_true, decide_eq_true_eq, not_or] at hplain
      have hcontrol : ¬ (c.toNat < 0x20 || c = '\\') = true := by
        simp only [Bool.or_eq_true, decide_eq_true_eq, not_or]
        exact ⟨hplain.1.1.1.1.1, hslash⟩
      rw [hpiece, Char.toString_eq_singleton, String.toList_singleton, List.singleton_append, readPieces.eq_4]
      · rw [if_neg hcontrol]
      · exact fun h => hquote h
      · exact fun _ _ _ _ _ h => absurd h hslash
      · exact fun _ _ h => absurd h hslash

theorem readPieces_written (cs : List Char) (rest : List Char) (acc : List Piece) :
    readPieces (cs.flatMap (fun c => (writeChar c).toList) ++ '"' :: rest) acc =
      some (acc.reverse ++ cs.map pieceOf, rest) := by
  induction cs generalizing acc with
  | nil => simp [readPieces]
  | cons c cs ih =>
    rw [List.flatMap_cons, List.append_assoc, readPieces_writeChar, ih]
    simp

theorem joinPieces_unit {n : Nat} (h : n < 0xD800 ∨ 0xE000 ≤ n) (ps : List Piece) :
    joinPieces (.unit n :: ps) = Char.ofNat n :: joinPieces ps := by
  have hsingle : ¬ (0xD800 ≤ n ∧ n < 0xE000) := by omega
  have hpair : ∀ lo, ¬ (0xD800 ≤ n ∧ n < 0xDC00 ∧ 0xDC00 ≤ lo ∧ lo < 0xE000) := by omega
  cases ps with
  | nil => simp [joinPieces, hsingle]
  | cons p ps =>
    cases p with
    | char c => simp [joinPieces, hsingle]
    | unit lo => rw [joinPieces, if_neg (hpair lo), if_neg hsingle]

theorem joinPieces_pieceOf (cs : List Char) : joinPieces (cs.map pieceOf) = cs := by
  induction cs with
  | nil => rfl
  | cons c cs ih =>
    have hpiece : pieceOf c = .char c ∨ pieceOf c = .unit c.toNat ∧ (c.toNat < 0xD800 ∨ 0xE000 ≤ c.toNat) := by
      have hvalid : c.toNat < 0xD800 ∨ 0xE000 ≤ c.toNat := c.valid.imp id fun h => h.1
      unfold pieceOf
      split
      iterate 7 · exact .inl rfl
      · split
        · exact .inr ⟨rfl, hvalid⟩
        · exact .inl rfl
    rw [List.map_cons]
    rcases hpiece with hpiece | ⟨hpiece, hvalid⟩
    · rw [hpiece, joinPieces, ih]
    · rw [hpiece, joinPieces_unit hvalid, ih, Char.ofNat_toNat]

theorem readString_written (s : String) (rest : List Char) :
    readString (s.toList.flatMap (fun c => (writeChar c).toList) ++ '"' :: rest) = some (s, rest) := by
  rw [readString, readPieces_written]
  simp [joinPieces_pieceOf]

/-! ## Blanks -/

theorem skipBlanks_newline (level : Nat) (cs : List Char) :
    skipBlanks ((newline level).toList ++ cs) = skipBlanks cs := by
  have hspaces : ∀ n, (List.replicate n ' ' ++ cs).dropWhile isBlank = cs.dropWhile isBlank := by
    intro n
    induction n with
    | zero => rfl
    | succ n ih =>
      rw [List.replicate_succ, List.cons_append, List.dropWhile_cons_of_pos (by decide)]
      exact ih
  have hbreak : isBlank '\n' = true := by decide
  unfold skipBlanks newline
  simp [String.toList_append, hbreak, hspaces]

theorem skipBlanks_cons {c : Char} (h : isBlank c = false) (cs : List Char) : skipBlanks (c :: cs) = c :: cs :=
  List.dropWhile_cons_of_neg (by simp [h])

theorem readNested_of_skipBlanks {cs cs' : List Char} (h : skipBlanks cs = skipBlanks cs') (fuel depth : Nat) :
    readNested fuel depth cs = readNested fuel depth cs' := by
  cases fuel with
  | zero => rfl
  | succ fuel => rw [readNested, readNested, h]

theorem readNested_newline (fuel depth level : Nat) (cs : List Char) :
    readNested fuel depth ((newline level).toList ++ cs) = readNested fuel depth cs :=
  readNested_of_skipBlanks (skipBlanks_newline level cs) fuel depth

/-! ## Trees -/

attribute [simp] prettyAt prettyItems prettyMembers

mutual

/-- The tree that the text of a tree denotes. -/
def written : Json → Json
  | .null => .null
  | .bool b => .bool b
  | .num d => .num (NumberStyle.document.written d)
  | .str s => .str s
  | .arr items => .arr (writtenItems items)
  | .obj members => .obj (writtenMembers members)

/-- The items that the texts of a list of items denote. -/
def writtenItems : List Json → List Json
  | [] => []
  | item :: items => written item :: writtenItems items

/-- The members that the texts of a list of members denote. -/
def writtenMembers : List (String × Json) → List (String × Json)
  | [] => []
  | (name, value) :: members => (name, written value) :: writtenMembers members

end

/-- A tree nests no deeper than a number of levels, and its zeros have no exponent. -/
inductive Fits : Nat → Json → Prop
  | null (depth : Nat) : Fits depth .null
  | bool (depth : Nat) (b : Bool) : Fits depth (.bool b)
  | num (depth : Nat) {d : Decimal} (h : d.digits = 0 → d.exponent = 0) : Fits depth (.num d)
  | str (depth : Nat) (s : String) : Fits depth (.str s)
  | arr {depth : Nat} {items : List Json} (h : ∀ item ∈ items, Fits depth item) : Fits (depth + 1) (.arr items)
  | obj {depth : Nat} {members : List (String × Json)} (h : ∀ m ∈ members, Fits depth m.2) :
      Fits (depth + 1) (.obj members)

/-- A written tree begins with a character that is neither blank nor a closing bracket. -/
theorem head_prettyAt (level : Nat) {depth : Nat} {j : Json} (h : Fits depth j) :
    ∃ c cs, (prettyAt level j).toList = c :: cs ∧ isBlank c = false ∧ c ≠ ']' ∧ c ≠ '\x7d' := by
  have hdigit : ∀ c : Char, c = '-' ∨ c.isDigit = true → isBlank c = false ∧ c ≠ ']' ∧ c ≠ '\x7d' := by
    rintro c (rfl | hdigit)
    · decide
    · refine ⟨?_, ?_, ?_⟩
      · simp only [isBlank, Bool.or_eq_false_iff, decide_eq_false_iff_not]
        refine ⟨⟨⟨?_, ?_⟩, ?_⟩, ?_⟩ <;>
        · rintro rfl
          cases hdigit
      · rintro rfl
        cases hdigit
      · rintro rfl
        cases hdigit
  cases h with
  | null => exact ⟨'n', ['u', 'l', 'l'], by rw [prettyAt]; rfl, by decide⟩
  | bool _ b =>
    cases b with
    | true => exact ⟨'t', ['r', 'u', 'e'], by rw [prettyAt]; rfl, by decide⟩
    | false => exact ⟨'f', ['a', 'l', 's', 'e'], by rw [prettyAt]; rfl, by decide⟩
  | num _ h =>
    obtain ⟨c, cs, htext, hc⟩ := (NumberStyle.layout_denotes .document h).head
    exact ⟨c, cs, htext, hdigit c hc⟩
  | str _ s =>
    rw [prettyAt, toList_writeString]
    exact ⟨'"', _, rfl, by decide⟩
  | @arr _ items _ =>
    cases items with
    | nil => exact ⟨'[', [']'], by rw [prettyAt]; rfl, by decide⟩
    | cons item items =>
      rw [prettyAt]
      simp only [String.toList_append]
      exact ⟨'[', _, rfl, by decide⟩
  | @obj _ members _ =>
    cases members with
    | nil => exact ⟨'\x7b', ['\x7d'], by rw [prettyAt]; rfl, by decide⟩
    | cons m members =>
      rw [prettyAt]
      simp only [String.toList_append]
      exact ⟨'\x7b', _, rfl, by decide⟩

/-! ## Reading trees -/

/-- What follows an item of a list: a comma and further items, or the closing bracket. -/
def afterItem (fuel depth : Nat) (acc : List Json) (cs : List Char) : Option (Json × List Char) :=
  match skipBlanks cs with
  | ',' :: rest => readItems fuel depth acc rest
  | ']' :: rest => some (.arr acc.reverse, rest)
  | _ => none

theorem afterItem_comma (fuel depth : Nat) (acc : List Json) (cs : List Char) :
    afterItem fuel depth acc (',' :: cs) = readItems fuel depth acc cs := by
  rw [afterItem, skipBlanks_cons (by decide)]
  rfl

theorem afterItem_close (fuel depth level : Nat) (acc : List Json) (rest : List Char) :
    afterItem fuel depth acc ((newline level).toList ++ ']' :: rest) = some (.arr acc.reverse, rest) := by
  rw [afterItem, skipBlanks_newline, skipBlanks_cons (by decide)]
  rfl

/-- What follows a member of an object: a comma and further members, or the closing brace. -/
def afterMember (fuel depth : Nat) (acc : List (String × Json)) (cs : List Char) : Option (Json × List Char) :=
  match skipBlanks cs with
  | ',' :: rest => readMembers fuel depth acc rest
  | '\x7d' :: rest => some (.obj acc.reverse, rest)
  | _ => none

theorem afterMember_comma (fuel depth : Nat) (acc : List (String × Json)) (cs : List Char) :
    afterMember fuel depth acc (',' :: cs) = readMembers fuel depth acc cs := by
  rw [afterMember, skipBlanks_cons (by decide)]
  rfl

theorem afterMember_close (fuel depth level : Nat) (acc : List (String × Json)) (rest : List Char) :
    afterMember fuel depth acc ((newline level).toList ++ '\x7d' :: rest) = some (.obj acc.reverse, rest) := by
  rw [afterMember, skipBlanks_newline, skipBlanks_cons (by decide)]
  rfl

theorem readItems_step {fuel depth : Nat} {cs rest : List Char} {item : Json}
    (h : readNested fuel depth cs = some (item, rest)) (acc : List Json) :
    readItems (fuel + 1) depth acc cs = afterItem fuel depth (item :: acc) rest := by
  rw [readItems, h]
  rfl

theorem skipBlanks_writeString (name : String) (cs : List Char) :
    skipBlanks ((writeString name).toList ++ cs) = (writeString name).toList ++ cs := by
  rw [toList_writeString]
  exact skipBlanks_cons (by decide) _

/-- A member is its name in quotes, a colon and its value. -/
theorem readMembers_step {fuel depth : Nat} {cs rest : List Char} {value : Json}
    (h : readNested fuel depth cs = some (value, rest)) {text : List Char} {name : String}
    (htext : skipBlanks text = (writeString name).toList ++ ':' :: cs) (acc : List (String × Json)) :
    readMembers (fuel + 1) depth acc text = afterMember fuel depth ((name, value) :: acc) rest := by
  have hcolon : skipBlanks (':' :: cs) = ':' :: cs := skipBlanks_cons (by decide) cs
  rw [readMembers, htext, toList_writeString, List.cons_append, List.append_assoc]
  simp only [List.singleton_append, readString_written, hcolon, h]
  rfl

theorem readNested_blank (fuel depth : Nat) (cs : List Char) :
    readNested fuel depth (' ' :: cs) = readNested fuel depth cs :=
  readNested_of_skipBlanks (List.dropWhile_cons_of_pos (by decide)) fuel depth

theorem skipBlanks_skipBlanks (cs : List Char) : skipBlanks (skipBlanks cs) = skipBlanks cs := by
  exact List.dropWhile_idempotent isBlank cs

theorem readItems_skipBlanks (fuel depth : Nat) (acc : List Json) (cs : List Char) :
    readItems fuel depth acc (skipBlanks cs) = readItems fuel depth acc cs := by
  cases fuel with
  | zero => rfl
  | succ fuel => rw [readItems, readItems, readNested_of_skipBlanks (skipBlanks_skipBlanks cs)]

theorem readMembers_skipBlanks (fuel depth : Nat) (acc : List (String × Json)) (cs : List Char) :
    readMembers fuel depth acc (skipBlanks cs) = readMembers fuel depth acc cs := by
  cases fuel with
  | zero => rfl
  | succ fuel => rw [readMembers, readMembers, skipBlanks_skipBlanks]

/-- A list whose bracket is not closed at once is read item by item. -/
theorem readNested_bracket (fuel depth : Nat) {cs : List Char} (h : ∀ rest, skipBlanks cs ≠ ']' :: rest) :
    readNested (fuel + 1) (depth + 1) ('[' :: cs) = readItems fuel depth [] cs := by
  have hopen : skipBlanks ('[' :: cs) = '[' :: cs := skipBlanks_cons (by decide) cs
  simp only [readNested, hopen]
  rw [if_neg depth.succ_ne_zero, Nat.add_sub_cancel]
  exact readItems_skipBlanks fuel depth [] cs

/-- An object whose brace is not closed at once is read member by member. -/
theorem readNested_brace (fuel depth : Nat) {cs : List Char} (h : ∀ rest, skipBlanks cs ≠ '\x7d' :: rest) :
    readNested (fuel + 1) (depth + 1) ('\x7b' :: cs) = readMembers fuel depth [] cs := by
  have hopen : skipBlanks ('\x7b' :: cs) = '\x7b' :: cs := skipBlanks_cons (by decide) cs
  simp only [readNested, hopen]
  rw [if_neg depth.succ_ne_zero, Nat.add_sub_cancel]
  exact readMembers_skipBlanks fuel depth [] cs

theorem EndsNumber.cons {c : Char} (h : c = ',' ∨ c = '\n') (cs : List Char) : EndsNumber (c :: cs) := by
  intro d hd
  obtain rfl : c = d := Option.some.inj hd
  rcases h with rfl | rfl <;> decide

theorem endsNumber_newline (level : Nat) (cs : List Char) : EndsNumber ((newline level).toList ++ cs) := by
  rw [newline, String.toList_append, List.append_assoc]
  exact .cons (.inr rfl) _

theorem toList_prettyAt_arr (level : Nat) (item : Json) (items : List Json) :
    (prettyAt level (.arr (item :: items))).toList = '[' :: ((newline (level + 1)).toList ++
      ((prettyAt (level + 1) item).toList ++ ((prettyItems (level + 1) items).toList ++
        ((newline level).toList ++ [']'])))) := by
  rw [prettyAt]
  simp [String.toList_append, List.append_assoc]

theorem toList_prettyItems_cons (level : Nat) (item : Json) (items : List Json) :
    (prettyItems level (item :: items)).toList =
      ',' :: ((newline level).toList ++ ((prettyAt level item).toList ++ (prettyItems level items).toList)) := by
  rw [prettyItems]
  simp [String.toList_append, List.append_assoc]

theorem toList_prettyAt_obj (level : Nat) (name : String) (value : Json) (members : List (String × Json)) :
    (prettyAt level (.obj ((name, value) :: members))).toList = '\x7b' :: ((newline (level + 1)).toList ++
      ((writeString name).toList ++ ':' :: ' ' :: ((prettyAt (level + 1) value).toList ++
        ((prettyMembers (level + 1) members).toList ++ ((newline level).toList ++ ['\x7d']))))) := by
  rw [prettyAt]
  simp [String.toList_append, List.append_assoc]

theorem toList_prettyMembers_cons (level : Nat) (name : String) (value : Json) (members : List (String × Json)) :
    (prettyMembers level ((name, value) :: members)).toList = ',' :: ((newline level).toList ++
      ((writeString name).toList ++ ':' :: ' ' :: ((prettyAt level value).toList ++
        (prettyMembers level members).toList))) := by
  rw [prettyMembers]
  simp [String.toList_append, List.append_assoc]

theorem endsNumber_prettyItems (level level' : Nat) (items : List Json) (cs : List Char) :
    EndsNumber ((prettyItems level items).toList ++ ((newline level').toList ++ cs)) := by
  cases items with
  | nil =>
    rw [prettyItems]
    exact endsNumber_newline level' cs
  | cons item items =>
    rw [toList_prettyItems_cons]
    exact .cons (.inl rfl) _

theorem endsNumber_prettyMembers (level level' : Nat) (members : List (String × Json)) (cs : List Char) :
    EndsNumber ((prettyMembers level members).toList ++ ((newline level').toList ++ cs)) := by
  cases members with
  | nil =>
    rw [prettyMembers]
    exact endsNumber_newline level' cs
  | cons m members =>
    rw [toList_prettyMembers_cons]
    exact .cons (.inl rfl) _

theorem writtenItems_eq (items : List Json) : writtenItems items = items.map written := by
  induction items with
  | nil => rfl
  | cons item items ih => rw [writtenItems, ih, List.map_cons]

theorem writtenMembers_eq (members : List (String × Json)) :
    writtenMembers members = members.map fun m => (m.1, written m.2) := by
  induction members with
  | nil => rfl
  | cons m members ih => rw [writtenMembers, ih, List.map_cons]

/-- The text of a tree is read to its end, with as many steps as it has characters. -/
def IsRead (depth : Nat) (j : Json) : Prop :=
  ∀ (level fuel : Nat) (rest : List Char), (prettyAt level j).toList.length ≤ fuel → EndsNumber rest →
    readNested fuel depth ((prettyAt level j).toList ++ rest) = some (written j, rest)

section

variable {depth fuel level lower : Nat} {rest : List Char}

theorem afterItem_pretty {items acc : List Json} (h : ∀ item ∈ items, IsRead depth item)
    (hfuel : (prettyItems level items).toList.length ≤ fuel) :
    afterItem fuel depth acc ((prettyItems level items).toList ++ ((newline lower).toList ++ ']' :: rest)) =
      some (.arr (acc.reverse ++ items.map written), rest) := by
  induction items generalizing acc fuel with
  | nil =>
    have hnone : (prettyItems level []).toList = [] := by rw [prettyItems]; rfl
    rw [hnone, List.nil_append, afterItem_close, List.map_nil, List.append_nil]
  | cons item items ih =>
    obtain ⟨hitem, hitems⟩ := List.forall_mem_cons.1 h
    rw [toList_prettyItems_cons] at hfuel ⊢
    simp only [List.length_cons, List.length_append] at hfuel
    obtain ⟨fuel, rfl⟩ : ∃ n, fuel = n + 1 := Nat.exists_eq_succ_of_ne_zero (by omega)
    have hread := hitem level fuel _ (by omega) (endsNumber_prettyItems level lower items (']' :: rest))
    simp only [List.cons_append, List.append_assoc]
    rw [afterItem_comma, readItems_step ((readNested_newline fuel depth level _).trans hread), ih hitems (by omega)]
    simp

theorem afterMember_pretty {members acc : List (String × Json)} (h : ∀ m ∈ members, IsRead depth m.2)
    (hfuel : (prettyMembers level members).toList.length ≤ fuel) :
    afterMember fuel depth acc ((prettyMembers level members).toList ++ ((newline lower).toList ++ '\x7d' :: rest)) =
      some (.obj (acc.reverse ++ members.map fun m => (m.1, written m.2)), rest) := by
  induction members generalizing acc fuel with
  | nil =>
    have hnone : (prettyMembers level []).toList = [] := by rw [prettyMembers]; rfl
    rw [hnone, List.nil_append, afterMember_close, List.map_nil, List.append_nil]
  | cons m members ih =>
    obtain ⟨name, value⟩ := m
    obtain ⟨hvalue, hmembers⟩ := List.forall_mem_cons.1 h
    dsimp only at hvalue
    rw [toList_prettyMembers_cons] at hfuel ⊢
    simp only [List.length_cons, List.length_append] at hfuel
    obtain ⟨fuel, rfl⟩ : ∃ n, fuel = n + 1 := Nat.exists_eq_succ_of_ne_zero (by omega)
    have hread := hvalue level fuel _ (by omega) (endsNumber_prettyMembers level lower members ('\x7d' :: rest))
    simp only [List.cons_append, List.append_assoc]
    rw [afterMember_comma, readMembers_step ((readNested_blank fuel depth _).trans hread)
      ((skipBlanks_newline level _).trans (skipBlanks_writeString name _)), ih hmembers (by omega)]
    simp

end

/-- Nothing is skipped before a tree, and its text is not empty. -/
theorem isRead_of_step {depth : Nat} {j : Json} (hfits : Fits depth j)
    (h : ∀ (level fuel : Nat) (rest : List Char), (prettyAt level j).toList.length ≤ fuel + 1 → EndsNumber rest →
      skipBlanks ((prettyAt level j).toList ++ rest) = (prettyAt level j).toList ++ rest →
      readNested (fuel + 1) depth ((prettyAt level j).toList ++ rest) = some (written j, rest)) : IsRead depth j := by
  intro level fuel rest hfuel hrest
  obtain ⟨c, cs, hc, hblank, -⟩ := head_prettyAt level hfits
  obtain ⟨fuel, rfl⟩ : ∃ n, fuel = n + 1 := Nat.exists_eq_succ_of_ne_zero fun hnone => by simp [hnone, hc] at hfuel
  refine h level fuel rest hfuel hrest ?_
  rw [hc]
  exact skipBlanks_cons hblank _

theorem readNested_number {fuel depth : Nat} {cs rest : List Char} {d : Decimal} (h : Denotes cs d)
    (hskip : skipBlanks (cs ++ rest) = cs ++ rest) (hrest : EndsNumber rest) :
    readNested (fuel + 1) depth (cs ++ rest) = some (.num d, rest) := by
  have hread := h.read hrest
  obtain ⟨c, tail, rfl, hc⟩ := h.head
  rw [List.cons_append] at hread hskip ⊢
  rw [readNested, hskip]
  split
  iterate 6
    · rename_i heq
      rw [(List.cons.inj heq).1] at hc
      exact absurd hc (by decide)
  · rw [hread]
    rfl

theorem isRead_arr {depth : Nat} {items : List Json} (hfits : ∀ item ∈ items, Fits depth item)
    (h : ∀ item ∈ items, IsRead depth item) : IsRead (depth + 1) (.arr items) := by
  refine isRead_of_step (.arr hfits) fun level fuel rest hfuel _ hskip => ?_
  cases items with
  | nil =>
    rw [readNested, hskip, prettyAt]
    rfl
  | cons item items =>
    obtain ⟨hitem, hitems⟩ := List.forall_mem_cons.1 h
    obtain ⟨c, tail, hc, hblank, hopen, -⟩ := head_prettyAt (level + 1) (hfits item List.mem_cons_self)
    rw [toList_prettyAt_arr] at hfuel ⊢
    simp only [List.length_cons, List.length_append] at hfuel
    obtain ⟨fuel, rfl⟩ : ∃ n, fuel = n + 1 := Nat.exists_eq_succ_of_ne_zero (by omega)
    have hread := hitem (level + 1) fuel _ (by omega) (endsNumber_prettyItems (level + 1) level items (']' :: rest))
    simp only [List.cons_append, List.append_assoc, List.nil_append]
    rw [readNested_bracket, readItems_step ((readNested_newline fuel depth (level + 1) _).trans hread),
      afterItem_pretty hitems (by omega), written, writtenItems_eq]
    · rfl
    · -- What follows the bracket is an item, not the end of the list.
      rw [skipBlanks_newline, hc, List.cons_append, skipBlanks_cons hblank]
      exact fun _ heq => hopen (List.cons.inj heq).1

theorem isRead_obj {depth : Nat} {members : List (String × Json)} (hfits : ∀ m ∈ members, Fits depth m.2)
    (h : ∀ m ∈ members, IsRead depth m.2) : IsRead (depth + 1) (.obj members) := by
  refine isRead_of_step (.obj hfits) fun level fuel rest hfuel _ hskip => ?_
  cases members with
  | nil =>
    rw [readNested, hskip, prettyAt]
    rfl
  | cons m members =>
    obtain ⟨name, value⟩ := m
    obtain ⟨hvalue, hmembers⟩ := List.forall_mem_cons.1 h
    dsimp only at hvalue
    rw [toList_prettyAt_obj] at hfuel ⊢
    simp only [List.length_cons, List.length_append] at hfuel
    obtain ⟨fuel, rfl⟩ : ∃ n, fuel = n + 1 := Nat.exists_eq_succ_of_ne_zero (by omega)
    have hread := hvalue (level + 1) fuel _ (by omega)
      (endsNumber_prettyMembers (level + 1) level members ('\x7d' :: rest))
    simp only [List.cons_append, List.append_assoc, List.nil_append]
    rw [readNested_brace, readMembers_step ((readNested_blank fuel depth _).trans hread)
      ((skipBlanks_newline (level + 1) _).trans (skipBlanks_writeString name _)),
      afterMember_pretty hmembers (by omega), written, writtenMembers_eq]
    · rfl
    · rw [skipBlanks_newline, skipBlanks_writeString, toList_writeString]
      exact fun _ heq => absurd (List.cons.inj heq).1 (by decide)

/-- A tree that nests no deeper than the reader allows is read back, one case for each kind of tree. -/
theorem readNested_pretty {depth : Nat} {j : Json} (h : Fits depth j) : IsRead depth j := by
  induction h with
  | null depth =>
    refine isRead_of_step (.null depth) fun level fuel rest _ _ hskip => ?_
    rw [readNested, hskip, prettyAt]
    rfl
  | bool depth b =>
    refine isRead_of_step (.bool depth b) fun level fuel rest _ _ hskip => ?_
    rw [readNested, hskip]
    cases b <;> rw [prettyAt] <;> rfl
  | num depth h =>
    refine isRead_of_step (.num depth h) fun level fuel rest _ hrest hskip => ?_
    rw [prettyAt] at hskip ⊢
    exact readNested_number (NumberStyle.layout_denotes .document h) hskip hrest
  | str depth s =>
    refine isRead_of_step (.str depth s) fun level fuel rest _ _ hskip => ?_
    rw [readNested, hskip, prettyAt, toList_writeString]
    simp only [List.cons_append, List.append_assoc, List.nil_append, readString_written]
    rfl
  | arr h ih => exact isRead_arr h ih
  | obj h ih => exact isRead_obj h ih

theorem readValue_pretty {j : Json} (h : Fits maxDepth j) : readValue j.pretty.toList = some (written j, []) := by
  have hread := readNested_pretty h 0 (2 * (prettyAt 0 j).toList.length + 2) [] (by omega) (fun c hc => nomatch hc)
  rwa [List.append_nil] at hread

theorem parse_writeNumber {d : Decimal} (h : d.digits = 0 → d.exponent = 0) :
    parse (writeNumber d) = some (.num (NumberStyle.document.written d)) := by
  have htext : writeNumber d = (Json.num d).pretty := by rw [pretty, prettyAt]
  rw [parse, htext, readValue_pretty (.num maxDepth h)]
  rfl

end SceneGraph.Json
