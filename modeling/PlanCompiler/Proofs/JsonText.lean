/-
# Proofs.JsonText -- a printed value is read back

A value may be written on one line or over several: the two layouts differ in the blanks
between its parts, and whatever these are, the text is read as the value (`read_text`), as long
as the value is legible.  That is, it has no unusable parts, its integers fit 64 bits, each of
its floats is read back by itself, and it is not nested too deep.

Reading is shown for values by induction, along with the items and members that are still to
come when some have been read, and with whatever comes after them that does not go on with a
number (`Follows`).
-/
import PlanCompiler.Proofs.JsonScalar

namespace PlanCompiler.Json

set_option autoImplicit false

/-! ## Legible values -/

mutual

/-- Every number of the value is read back by itself, and no part of it is unusable. -/
def IsLegible : Json → Prop
  | .null => True
  | .bool _ => True
  | .string _ => True
  | .integer value => IsInteger value
  | .real value => read? (realText value) = some (.real value)
  | .unusable => False
  | .array items => AreLegible items
  | .object members => MembersAreLegible members

def AreLegible : List Json → Prop
  | [] => True
  | item :: rest => IsLegible item ∧ AreLegible rest

def MembersAreLegible : List (String × Json) → Prop
  | [] => True
  | (_, value) :: rest => IsLegible value ∧ MembersAreLegible rest

end

theorem isInteger_natural {n : Nat} (fits : n < Nat.pow 2 64) : IsInteger n :=
  ⟨by have := Int.natCast_nonneg n; omega, Int.ofNat_lt.2 fits⟩

theorem areLegible_iff {items : List Json} :
    AreLegible items ↔ ∀ item ∈ items, item.IsLegible := by
  induction items with
  | nil => simp [AreLegible]
  | cons item rest ih => simp [AreLegible, ih]

theorem membersAreLegible_iff {members : List (String × Json)} :
    MembersAreLegible members ↔ ∀ member ∈ members, member.2.IsLegible := by
  induction members with
  | nil => simp [MembersAreLegible]
  | cons member rest ih => simp [MembersAreLegible, ih]

theorem depthOfItems_le_iff {items : List Json} {deepest : Nat} :
    depthOfItems items ≤ deepest ↔ ∀ item ∈ items, item.depth ≤ deepest := by
  induction items with
  | nil => simp [depthOfItems]
  | cons item rest ih => rw [depthOfItems, Nat.max_le, ih, List.forall_mem_cons]

theorem depthOfMembers_le_iff {members : List (String × Json)} {deepest : Nat} :
    depthOfMembers members ≤ deepest ↔ ∀ member ∈ members, member.2.depth ≤ deepest := by
  induction members with
  | nil => simp [depthOfMembers]
  | cons member rest ih => rw [depthOfMembers, Nat.max_le, ih, List.forall_mem_cons]

mutual

/-- What is legible has no unusable parts. -/
theorem isUsable_of_isLegible : ∀ v : Json, v.IsLegible → v.isUsable = true
  | .array items, legible => by
    rw [IsLegible] at legible
    rw [isUsable]
    exact areUsable_of_areLegible items legible
  | .object members, legible => by
    rw [IsLegible] at legible
    rw [isUsable]
    exact membersAreUsable_of_membersAreLegible members legible
  | .unusable, legible => by
    rw [IsLegible] at legible
    exact legible.elim
  | .null, _ | .bool _, _ | .integer _, _ | .real _, _ | .string _, _ => by
    rw [isUsable]
    all_goals exact nofun

theorem areUsable_of_areLegible : ∀ items : List Json, AreLegible items → areUsable items = true
  | [], _ => by rw [areUsable]
  | item :: rest, legible => by
    rw [AreLegible] at legible
    rw [areUsable, isUsable_of_isLegible item legible.1, areUsable_of_areLegible rest legible.2]
    rfl

theorem membersAreUsable_of_membersAreLegible : ∀ members : List (String × Json),
    MembersAreLegible members → membersAreUsable members = true
  | [], _ => by rw [membersAreUsable]
  | (_, value) :: rest, legible => by
    rw [MembersAreLegible] at legible
    rw [membersAreUsable, isUsable_of_isLegible value legible.1,
      membersAreUsable_of_membersAreLegible rest legible.2]
    rfl

end

namespace Reader

/-! ## Blanks -/

/-- Only blanks. -/
def Blank (text : List Char) : Prop :=
  ∀ c ∈ text, isSpace c = true

theorem blank_newline (level : Nat) : Blank (newline level).toList := by
  intro c mem
  rw [newline, String.toList_ofList] at mem
  rcases List.mem_cons.1 mem with rfl | mem
  · rfl
  · rw [List.eq_of_mem_replicate mem]
    rfl

theorem skipSpace_blank {blank : List Char} (isBlank : Blank blank) (rest : List Char) :
    skipSpace (blank ++ rest) = skipSpace rest :=
  List.dropWhile_append_of_pos isBlank

theorem follows_of_isSpace {c : Char} (space : isSpace c = true) :
    c.isDigit = false ∧ c ≠ '.' ∧ c ≠ 'e' ∧ c ≠ 'E' := by
  simp only [isSpace, Bool.or_eq_true, decide_eq_true_eq] at space
  rcases space with ((rfl | rfl) | rfl) | rfl <;> decide

/-- What follows may stand after blanks. -/
theorem follows_blank {blank rest : List Char} (isBlank : Blank blank) (follows : Follows rest) :
    Follows (blank ++ rest) := by
  cases blank with
  | nil => exact follows
  | cons c more =>
    intro other mem
    cases mem
    exact follows_of_isSpace (isBlank c List.mem_cons_self)

/-- The value may stand after blanks. -/
theorem value_blank {fuel depth : Nat} {blank unread rest : List Char} {v : Json}
    (isBlank : Blank blank) (isValue : value .lenient fuel depth unread = .ok (v, rest)) :
    value .lenient fuel depth (blank ++ unread) = .ok (v, rest) := by
  cases fuel with
  | zero =>
    rw [value] at isValue
    cases isValue
  | succ fuel =>
    rw [value] at isValue ⊢
    rw [skipSpace_blank isBlank]
    exact isValue

/-! ## Arrays and objects -/

/-- The text begins with neither a blank nor a bracket nor a comma. -/
def Begins (text : List Char) : Prop :=
  ∃ c more, text = c :: more ∧ isSpace c = false ∧ c ≠ ']' ∧ c ≠ ','

section

variable {fuel depth : Nat} {unread rest more blank after : List Char} {item : Json}
  {read : List Json}

theorem items_close (closes : skipSpace unread = ']' :: rest) :
    items .lenient (fuel + 1) depth read unread = .ok (.array read.reverse, rest) := by
  rw [items, closes]
  rfl

/-- The first item of an array. -/
theorem items_first {entry : List Char} (isBlank : Blank blank) (begins : Begins entry)
    (isItem : value .lenient fuel depth (entry ++ after) = .ok (item, rest)) :
    items .lenient (fuel + 1) depth [] (blank ++ (entry ++ after)) =
      items .lenient fuel depth [item] rest := by
  obtain ⟨c, more, rfl, notSpace, notClosed, notComma⟩ := begins
  rw [items, skipSpace_blank isBlank, List.cons_append, skipSpace_of_not notSpace]
  simp only
  split
  · rename_i same
    cases same
    exact absurd rfl notClosed
  · rename_i same
    cases same
    exact absurd rfl notComma
  · rw [← List.cons_append, isItem]
    rfl

/-- The item after a comma. -/
theorem items_next {entry : List Char} (nonempty : read ≠ []) (isBlank : Blank blank)
    (begins : Begins entry)
    (isItem : value .lenient fuel depth (entry ++ after) = .ok (item, rest)) :
    items .lenient (fuel + 1) depth read (',' :: (blank ++ (entry ++ after))) =
      items .lenient fuel depth (item :: read) rest := by
  obtain ⟨c, more, rfl, notSpace, notClosed, -⟩ := begins
  have notEmpty : read.isEmpty = false := by simp [nonempty]
  rw [items, skipSpace_of_not (by decide)]
  simp only [notEmpty, Bool.false_eq_true, if_false]
  rw [skipSpace_blank isBlank, List.cons_append, skipSpace_of_not notSpace]
  split
  · rename_i same
    cases same
    exact absurd rfl notClosed
  · rw [← List.cons_append, isItem]
    rfl

variable {all : List (String × Json)} {name : String}

theorem skipSpace_quote (name : String) (after : List Char) :
    skipSpace ((quote name).toList ++ after) = (quote name).toList ++ after := by
  rw [quote_toList, List.cons_append]
  exact skipSpace_of_not (by decide) _

/-- One member of an object, with its name between quotes. -/
theorem member_quoted (enough : name.toList.length < fuel)
    (begins : skipSpace unread = (quote name).toList ++ ':' :: after)
    (isContent : value .lenient fuel depth after = .ok (item, rest)) :
    member .lenient (fuel + 1) depth (some all) unread =
      members .lenient fuel depth (some ((name, item) :: all)) false rest := by
  have isName := text_quoted name.toList fuel [] (':' :: after) enough
  rw [List.reverse_nil, List.nil_append, String.ofList_toList] at isName
  rw [quote_toList, List.cons_append, List.append_assoc, List.singleton_append] at begins
  rw [member, begins]
  simp only
  rw [isName]
  simp only [bind, Except.bind]
  rw [skipSpace_of_not (by decide)]
  simp only
  rw [isContent]
  rfl

theorem members_close {first : Bool} (closes : skipSpace unread = '\x7d' :: rest) :
    members .lenient (fuel + 1) depth (some all) first unread =
      .ok (.object all.reverse, rest) := by
  rw [members, closes]
  rfl

/-- The first member of an object. -/
theorem members_first (enough : name.toList.length < fuel) (isBlank : Blank blank)
    (isContent : value .lenient fuel depth after = .ok (item, rest)) :
    members .lenient (fuel + 1 + 1) depth (some all) true
        (blank ++ ((quote name).toList ++ ':' :: after)) =
      members .lenient fuel depth (some ((name, item) :: all)) false rest := by
  have start : members .lenient (fuel + 1 + 1) depth (some all) true
        (blank ++ ((quote name).toList ++ ':' :: after)) =
      member .lenient (fuel + 1) depth (some all) ((quote name).toList ++ ':' :: after) := by
    rw [members, skipSpace_blank isBlank, skipSpace_quote, quote_toList, List.cons_append]
    rfl
  rw [start]
  exact member_quoted enough (skipSpace_quote name _) isContent

/-- The member after a comma. -/
theorem members_next (enough : name.toList.length < fuel) (isBlank : Blank blank)
    (isContent : value .lenient fuel depth after = .ok (item, rest)) :
    members .lenient (fuel + 1 + 1) depth (some all) false
        (',' :: (blank ++ ((quote name).toList ++ ':' :: after))) =
      members .lenient fuel depth (some ((name, item) :: all)) false rest := by
  have start : members .lenient (fuel + 1 + 1) depth (some all) false
        (',' :: (blank ++ ((quote name).toList ++ ':' :: after))) =
      member .lenient (fuel + 1) depth (some all)
        (blank ++ ((quote name).toList ++ ':' :: after)) := by
    rw [members, skipSpace_of_not (by decide)]
    rfl
  rw [start]
  refine member_quoted enough ?_ isContent
  rw [skipSpace_blank isBlank, skipSpace_quote]

theorem value_bracket (deep : depth ≠ 0) (rest : List Char) :
    value .lenient (fuel + 1) depth ('[' :: rest) =
      items .lenient fuel (depth - 1) [] rest := by
  rw [value, skipSpace_of_not (by decide)]
  exact if_pos deep

theorem value_brace (deep : depth ≠ 0) (rest : List Char) :
    value .lenient (fuel + 1) depth ('\x7b' :: rest) =
      members .lenient fuel (depth - 1) (some []) true rest := by
  rw [value, skipSpace_of_not (by decide)]
  exact if_pos deep

end

end Reader

/-! ## Layouts -/

open Reader

/-- The blanks between the parts of a value. -/
structure Style where
  /-- What stands before an entry of this level, and before a bracket that leads back to it. -/
  gap : Nat → List Char
  afterColon : List Char
  gap_blank : ∀ level, Blank (gap level)
  afterColon_blank : Blank afterColon

namespace Style

/-- Everything on one line. -/
def oneLine : Style :=
  ⟨fun _ => [], [], fun _ => nofun, nofun⟩

/-- Each entry on a line of its own. -/
def indented : Style :=
  ⟨fun level => (newline level).toList, [' '], blank_newline, List.all_eq_true.1 rfl⟩

variable (style : Style)

/-- The entries of a container after the first. -/
def further (level : Nat) (entries : List (List Char)) : List Char :=
  entries.flatMap fun entry => ',' :: (style.gap level ++ entry)

/-- A container between its brackets. -/
def enclosed (opening closing : Char) (level : Nat) : List (List Char) → List Char
  | [] => [opening, closing]
  | entry :: entries =>
    opening :: (style.gap (level + 1) ++
      (entry ++ (style.further (level + 1) entries ++ (style.gap level ++ [closing]))))

mutual

/-- The text of a value that stands at a level. -/
def text (level : Nat) : Json → List Char
  | .array items => style.enclosed '[' ']' level (itemTexts (level + 1) items)
  | .object members => style.enclosed '\x7b' '\x7d' level (memberTexts (level + 1) members)
  | scalar => scalar.compact.toList

def itemTexts (level : Nat) : List Json → List (List Char)
  | [] => []
  | item :: rest => text level item :: itemTexts level rest

def memberTexts (level : Nat) : List (String × Json) → List (List Char)
  | [] => []
  | (name, value) :: rest =>
    ((quote name).toList ++ ':' :: (style.afterColon ++ text level value))
      :: memberTexts level rest

end

/-! ### The two layouts -/

theorem intercalate_cons {α : Type} (between first : List α) (rest : List (List α)) :
    between.intercalate (first :: rest) = first ++ rest.flatMap (between ++ ·) := by
  induction rest generalizing first with
  | nil => simp
  | cons next rest ih =>
    rw [List.intercalate_cons_cons, ih, List.flatMap_cons]
    simp only [List.append_assoc]

theorem enclosed_indented {opening closing : String} {a b : Char} (opens : opening.toList = [a])
    (closes : closing.toList = [b]) (level : Nat) (entries : List String) :
    (block opening closing level entries).toList =
      indented.enclosed a b level (entries.map String.toList) := by
  cases entries with
  | nil => simp [block, enclosed, opens, closes]
  | cons entry entries =>
    have comma : ("," ++ newline (level + 1)).toList = ',' :: (newline (level + 1)).toList := by
      rw [String.toList_append]
      rfl
    simp only [block, enclosed, further, indented, String.toList_append, String.toList_intercalate,
      List.map_cons, intercalate_cons, comma, List.flatMap_map, opens, closes, List.append_assoc,
      List.cons_append, List.nil_append]

theorem enclosed_oneLine {opening closing : String} {a b : Char} (opens : opening.toList = [a])
    (closes : closing.toList = [b]) (level : Nat) (entries : List String) :
    (opening ++ ",".intercalate entries ++ closing).toList =
      oneLine.enclosed a b level (entries.map String.toList) := by
  have comma : ",".toList = [','] := by decide
  cases entries with
  | nil => simp [enclosed, opens, closes, String.intercalate]
  | cons entry entries =>
    simp only [enclosed, further, oneLine, String.toList_append, String.toList_intercalate,
      List.map_cons, intercalate_cons, comma, List.flatMap_map, opens, closes, List.append_assoc,
      List.cons_append, List.nil_append]

mutual

theorem text_indented : ∀ (level : Nat) (v : Json), indented.text level v = (v.prettyAt level).toList
  | level, .array items => by
    have brackets : "[".toList = ['['] ∧ "]".toList = [']'] := by decide
    rw [text, prettyAt, enclosed_indented brackets.1 brackets.2, itemTexts_indented]
  | level, .object members => by
    have braces : "\x7b".toList = ['\x7b'] ∧ "\x7d".toList = ['\x7d'] := by decide
    rw [text, prettyAt, enclosed_indented braces.1 braces.2, memberTexts_indented]
  | _, .null | _, .bool _ | _, .integer _ | _, .real _ | _, .string _ | _, .unusable => by
    rw [text, prettyAt]
    all_goals exact nofun

theorem itemTexts_indented : ∀ (level : Nat) (items : List Json),
    indented.itemTexts level items = (prettyItems level items).map String.toList
  | _, [] => by rw [itemTexts, prettyItems, List.map_nil]
  | level, item :: rest => by
    rw [itemTexts, prettyItems, List.map_cons, text_indented, itemTexts_indented]

theorem memberTexts_indented : ∀ (level : Nat) (members : List (String × Json)),
    indented.memberTexts level members = (prettyMembers level members).map String.toList
  | _, [] => by rw [memberTexts, prettyMembers, List.map_nil]
  | level, (name, value) :: rest => by
    have colon : ": ".toList = [':', ' '] := by decide
    rw [memberTexts, prettyMembers, List.map_cons, text_indented, memberTexts_indented,
      String.toList_append, String.toList_append, colon, List.append_assoc]
    rfl

end

mutual

theorem text_oneLine : ∀ (level : Nat) (v : Json), oneLine.text level v = v.compact.toList
  | level, .array items => by
    have brackets : "[".toList = ['['] ∧ "]".toList = [']'] := by decide
    rw [text, compact, enclosed_oneLine brackets.1 brackets.2 level, itemTexts_oneLine]
  | level, .object members => by
    have braces : "\x7b".toList = ['\x7b'] ∧ "\x7d".toList = ['\x7d'] := by decide
    rw [text, compact, enclosed_oneLine braces.1 braces.2 level, memberTexts_oneLine]
  | _, .null | _, .bool _ | _, .integer _ | _, .real _ | _, .string _ | _, .unusable => by
    rw [text]
    all_goals exact nofun

theorem itemTexts_oneLine : ∀ (level : Nat) (items : List Json),
    oneLine.itemTexts level items = (compactItems items).map String.toList
  | _, [] => by rw [itemTexts, compactItems, List.map_nil]
  | level, item :: rest => by
    rw [itemTexts, compactItems, List.map_cons, text_oneLine, itemTexts_oneLine]

theorem memberTexts_oneLine : ∀ (level : Nat) (members : List (String × Json)),
    oneLine.memberTexts level members = (compactMembers members).map String.toList
  | _, [] => by rw [memberTexts, compactMembers, List.map_nil]
  | level, (name, value) :: rest => by
    have colon : ":".toList = [':'] := by decide
    rw [memberTexts, compactMembers, List.map_cons, text_oneLine, memberTexts_oneLine,
      String.toList_append, String.toList_append, colon, List.append_assoc]
    rfl

end

/-! ### Parts of a text -/

variable {style : Style}

theorem begins_enclosed {opening closing : Char}
    (begins : isSpace opening = false ∧ opening ≠ ']' ∧ opening ≠ ',') (level : Nat) :
    ∀ entries, Begins (style.enclosed opening closing level entries)
  | [] => ⟨opening, _, rfl, begins⟩
  | _ :: _ => ⟨opening, _, rfl, begins⟩

theorem begins_digit {c : Char} (isDigit : c.isDigit = true) (more : List Char) :
    Begins (c :: more) :=
  ⟨c, more, rfl, isSpace_of_isDigit isDigit, ne_of_isDigit isDigit rfl, ne_of_isDigit isDigit rfl⟩

theorem begins_integer (n : Int) : Begins (toString n).toList := by
  cases n with
  | negSucc n => exact ⟨'-', _, String.toList_append, by decide⟩
  | ofNat n =>
    have written : (toString (Int.ofNat n)).toList = Nat.toDigits 10 n := Nat.toList_repr
    obtain ⟨c, more, digits, isDigit⟩ := toDigits_cons n
    rw [written, digits]
    exact begins_digit isDigit more

theorem begins_real (x : Float) : Begins (realText x).toList := by
  obtain ⟨magnitude, ⟨⟨c, more, begins, isDigit⟩, -⟩, text⟩ := realText_toList x
  rw [text, begins]
  split
  · exact ⟨'-', _, rfl, by decide⟩
  · exact begins_digit isDigit more

theorem begins_text (style : Style) (level : Nat) (v : Json) : Begins (style.text level v) := by
  cases v with
  | null | unusable => exact ⟨'n', ['u', 'l', 'l'], by simp [text, compact], by decide⟩
  | bool b =>
    cases b with
    | true => exact ⟨'t', ['r', 'u', 'e'], by simp [text, compact], by decide⟩
    | false => exact ⟨'f', ['a', 'l', 's', 'e'], by simp [text, compact], by decide⟩
  | integer n =>
    simp only [text, compact]
    exact begins_integer n
  | real x =>
    simp only [text, compact]
    exact begins_real x
  | string content =>
    simp only [text, compact]
    exact ⟨'\x22', _, String.toList_ofList, by decide⟩
  | array items =>
    rw [text]
    exact begins_enclosed (by decide) level _
  | object members =>
    rw [text]
    exact begins_enclosed (by decide) level _

theorem text_nonempty (style : Style) (level : Nat) (v : Json) : 0 < (style.text level v).length := by
  obtain ⟨c, more, text, -⟩ := begins_text style level v
  rw [text]
  exact Nat.succ_pos _

/-- What comes after an entry, be it the next one or the end of the container. -/
theorem follows_further (style : Style) (level below : Nat) (entries : List (List Char))
    {closing : Char} (closes : closing = ']' ∨ closing = '\x7d') (rest : List Char) :
    Follows (style.further level entries ++ (style.gap below ++ closing :: rest)) := by
  cases entries with
  | nil =>
    rw [further, List.flatMap_nil, List.nil_append]
    refine follows_blank (style.gap_blank below) ?_
    intro c mem
    cases mem
    rcases closes with rfl | rfl <;> decide
  | cons entry entries =>
    intro c mem
    cases mem
    decide

theorem enclosed_append (opening closing : Char) (level : Nat) (entry : List Char)
    (entries : List (List Char)) (rest : List Char) :
    style.enclosed opening closing level (entry :: entries) ++ rest =
      opening :: (style.gap (level + 1) ++ (entry ++
        (style.further (level + 1) entries ++ (style.gap level ++ closing :: rest)))) := by
  simp only [enclosed, List.append_assoc, List.cons_append, List.nil_append]

theorem further_append (level : Nat) (entry : List Char) (entries : List (List Char))
    (rest : List Char) :
    style.further level (entry :: entries) ++ rest =
      ',' :: (style.gap level ++ (entry ++ (style.further level entries ++ rest))) := by
  simp only [further, List.flatMap_cons, List.append_assoc, List.cons_append]

theorem length_enclosed (style : Style) (opening closing : Char) (level : Nat) (entry : List Char)
    (entries : List (List Char)) :
    entry.length + (style.further (level + 1) entries).length + 2 ≤
      (style.enclosed opening closing level (entry :: entries)).length := by
  simp only [enclosed, List.length_append, List.length_cons]
  omega

theorem length_further (style : Style) (level : Nat) (entry : List Char)
    (entries : List (List Char)) :
    entry.length + (style.further level entries).length + 1 ≤
      (style.further level (entry :: entries)).length := by
  simp only [further, List.flatMap_cons, List.length_append, List.length_cons]
  omega

/-- The text of a member. -/
theorem member_append (name : String) (between content rest : List Char) :
    ((quote name).toList ++ ':' :: (between ++ content)) ++ rest =
      (quote name).toList ++ ':' :: (between ++ (content ++ rest)) := by
  simp only [List.append_assoc, List.cons_append]

/-! ## Reading what is printed -/

mutual

/-- A printed value is read back, whatever follows it. -/
theorem value_text : ∀ (v : Json) (level fuel depth : Nat) (rest : List Char),
    v.IsLegible → v.depth ≤ depth → 3 * (style.text level v).length ≤ fuel → Follows rest →
    value .lenient fuel depth (style.text level v ++ rest) = .ok (v, rest)
  | .array [] => by
    intro level fuel depth rest legible shallow enough follows
    rw [Json.depth] at shallow
    rw [text, itemTexts, enclosed] at enough ⊢
    obtain ⟨fuel, rfl⟩ : ∃ more, fuel = more + 1 + 1 := ⟨fuel - 2, by simp at enough; omega⟩
    rw [List.cons_append, value_bracket (by omega)]
    exact items_close (skipSpace_of_not (by decide) _)
  | .array (item :: others) => by
    intro level fuel depth rest legible shallow enough follows
    rw [IsLegible, AreLegible] at legible
    rw [Json.depth, depthOfItems] at shallow
    have length := length_enclosed style '[' ']' level (style.text (level + 1) item)
      (style.itemTexts (level + 1) others)
    rw [text, itemTexts] at enough ⊢
    -- one step for the bracket and one for the first item
    obtain ⟨fuel, rfl⟩ : ∃ more, fuel = more + 1 + 1 := ⟨fuel - 2, by omega⟩
    have isItem := value_text item (level + 1) fuel (depth - 1) _ legible.1 (by omega) (by omega)
      (follows_further style (level + 1) level (style.itemTexts (level + 1) others) (.inl rfl) rest)
    have areItems := items_text others level fuel (depth - 1) [item] rest (List.cons_ne_nil _ _)
      legible.2 (by omega) (by omega)
    rw [enclosed_append, value_bracket (by omega),
      items_first (style.gap_blank _) (begins_text style (level + 1) item) isItem, areItems]
    rfl
  | .object [] => by
    intro level fuel depth rest legible shallow enough follows
    rw [Json.depth] at shallow
    rw [text, memberTexts, enclosed] at enough ⊢
    obtain ⟨fuel, rfl⟩ : ∃ more, fuel = more + 1 + 1 := ⟨fuel - 2, by simp at enough; omega⟩
    rw [List.cons_append, value_brace (by omega)]
    exact members_close (skipSpace_of_not (by decide) _)
  | .object ((name, item) :: others) => by
    intro level fuel depth rest legible shallow enough follows
    rw [IsLegible, MembersAreLegible] at legible
    rw [Json.depth, depthOfMembers] at shallow
    have length := length_enclosed style '\x7b' '\x7d' level
      ((quote name).toList ++ ':' :: (style.afterColon ++ style.text (level + 1) item))
      (style.memberTexts (level + 1) others)
    have nameLength := length_quote name
    rw [text, memberTexts] at enough ⊢
    simp only [List.length_append, List.length_cons] at length
    -- one step more than for an item: a member is read by a function of its own
    obtain ⟨fuel, rfl⟩ : ∃ more, fuel = more + 1 + 1 + 1 := ⟨fuel - 3, by omega⟩
    have isItem := value_text item (level + 1) fuel (depth - 1) _ legible.1 (by omega) (by omega)
      (follows_further style (level + 1) level (style.memberTexts (level + 1) others) (.inr rfl)
        rest)
    have areMembers := members_text others level fuel (depth - 1) [(name, item)] rest legible.2
      (by omega) (by omega)
    rw [enclosed_append, value_brace (by omega), member_append,
      members_first (by omega) (style.gap_blank _) (value_blank style.afterColon_blank isItem),
      areMembers]
    rfl
  | .null => by
    intro level fuel depth rest legible shallow enough follows
    have some := text_nonempty style level .null
    rw [text] at enough some ⊢
    · obtain ⟨fuel, rfl⟩ : ∃ more, fuel = more + 1 := ⟨fuel - 1, by omega⟩
      exact value_word (.inl rfl) fuel depth rest
    all_goals exact nofun
  | .bool b => by
    intro level fuel depth rest legible shallow enough follows
    have some := text_nonempty style level (.bool b)
    rw [text] at enough some ⊢
    · obtain ⟨fuel, rfl⟩ : ∃ more, fuel = more + 1 := ⟨fuel - 1, by omega⟩
      exact value_word (.inr ⟨b, rfl⟩) fuel depth rest
    all_goals exact nofun
  | .integer n => by
    intro level fuel depth rest legible shallow enough follows
    have some := text_nonempty style level (.integer n)
    rw [IsLegible] at legible
    rw [text, compact] at enough some ⊢
    · obtain ⟨fuel, rfl⟩ : ∃ more, fuel = more + 1 := ⟨fuel - 1, by omega⟩
      exact value_integer legible fuel depth follows
    all_goals exact nofun
  | .real x => by
    intro level fuel depth rest legible shallow enough follows
    have some := text_nonempty style level (.real x)
    rw [IsLegible] at legible
    rw [text, compact] at enough some ⊢
    · obtain ⟨fuel, rfl⟩ : ∃ more, fuel = more + 1 := ⟨fuel - 1, by omega⟩
      exact value_real legible fuel depth follows
    all_goals exact nofun
  | .string content => by
    intro level fuel depth rest legible shallow enough follows
    have length := length_quote content
    rw [text, compact] at enough ⊢
    · obtain ⟨fuel, rfl⟩ : ∃ more, fuel = more + 1 := ⟨fuel - 1, by omega⟩
      exact value_quote content (by omega) rest
    all_goals exact nofun
  | .unusable => by
    intro level fuel depth rest legible shallow enough follows
    rw [IsLegible] at legible
    exact legible.elim

/-- The items that follow some that have been read. -/
theorem items_text : ∀ (others : List Json) (level fuel depth : Nat) (read : List Json)
    (rest : List Char), read ≠ [] → AreLegible others → depthOfItems others ≤ depth →
    3 * (style.further (level + 1) (style.itemTexts (level + 1) others)).length + 1 ≤ fuel →
    items .lenient fuel depth read (style.further (level + 1)
        (style.itemTexts (level + 1) others) ++ (style.gap level ++ ']' :: rest)) =
      .ok (.array (read.reverse ++ others), rest)
  | [] => by
    intro level fuel depth read rest nonempty legible shallow enough
    obtain ⟨fuel, rfl⟩ : ∃ more, fuel = more + 1 := ⟨fuel - 1, by omega⟩
    rw [List.append_nil]
    refine items_close ?_
    rw [itemTexts, further, List.flatMap_nil, List.nil_append, skipSpace_blank (style.gap_blank _)]
    exact skipSpace_of_not (by decide) _
  | item :: others => by
    intro level fuel depth read rest nonempty legible shallow enough
    rw [AreLegible] at legible
    rw [depthOfItems] at shallow
    have length := length_further style (level + 1) (style.text (level + 1) item)
      (style.itemTexts (level + 1) others)
    rw [itemTexts] at enough ⊢
    obtain ⟨fuel, rfl⟩ : ∃ more, fuel = more + 1 := ⟨fuel - 1, by omega⟩
    have isItem := value_text item (level + 1) fuel depth _ legible.1 (by omega) (by omega)
      (follows_further style (level + 1) level (style.itemTexts (level + 1) others) (.inl rfl) rest)
    have areItems := items_text others level fuel depth (item :: read) rest
      (List.cons_ne_nil _ _) legible.2 (by omega) (by omega)
    rw [further_append, items_next nonempty (style.gap_blank _)
      (begins_text style (level + 1) item) isItem, areItems, List.reverse_cons, List.append_assoc]
    rfl

/-- The members that follow some that have been read. -/
theorem members_text : ∀ (others : List (String × Json)) (level fuel depth : Nat)
    (read : List (String × Json)) (rest : List Char), MembersAreLegible others →
    depthOfMembers others ≤ depth →
    3 * (style.further (level + 1) (style.memberTexts (level + 1) others)).length + 1 ≤ fuel →
    members .lenient fuel depth (some read) false (style.further (level + 1)
        (style.memberTexts (level + 1) others) ++ (style.gap level ++ '\x7d' :: rest)) =
      .ok (.object (read.reverse ++ others), rest)
  | [] => by
    intro level fuel depth read rest legible shallow enough
    obtain ⟨fuel, rfl⟩ : ∃ more, fuel = more + 1 := ⟨fuel - 1, by omega⟩
    rw [List.append_nil]
    refine members_close ?_
    rw [memberTexts, further, List.flatMap_nil, List.nil_append,
      skipSpace_blank (style.gap_blank _)]
    exact skipSpace_of_not (by decide) _
  | (name, item) :: others => by
    intro level fuel depth read rest legible shallow enough
    rw [MembersAreLegible] at legible
    rw [depthOfMembers] at shallow
    have length := length_further style (level + 1)
      ((quote name).toList ++ ':' :: (style.afterColon ++ style.text (level + 1) item))
      (style.memberTexts (level + 1) others)
    have nameLength := length_quote name
    rw [memberTexts] at enough ⊢
    simp only [List.length_append, List.length_cons] at length
    obtain ⟨fuel, rfl⟩ : ∃ more, fuel = more + 1 + 1 := ⟨fuel - 2, by omega⟩
    have isItem := value_text item (level + 1) fuel depth _ legible.1 (by omega) (by omega)
      (follows_further style (level + 1) level (style.memberTexts (level + 1) others) (.inr rfl)
        rest)
    have areMembers := members_text others level fuel depth ((name, item) :: read) rest
      legible.2 (by omega) (by omega)
    rw [further_append, member_append,
      members_next (by omega) (style.gap_blank _) (value_blank style.afterColon_blank isItem),
      areMembers, List.reverse_cons, List.append_assoc]
    rfl

end

/-- The text of a legible value, in any layout and with blanks behind it, is read as the value. -/
theorem read_text (style : Style) {v : Json} (legible : v.IsLegible) (shallow : v.depth ≤ maxDepth)
    {printed : String} {blank : List Char} (isBlank : Blank blank)
    (isText : printed.toList = style.text 0 v ++ blank) : read printed = .ok v := by
  have follows : Follows blank := by
    rw [← List.append_nil blank]
    exact follows_blank isBlank nofun
  have enough : 3 * (style.text 0 v).length ≤ fuelFor printed.toList := by
    rw [fuelFor, isText, List.length_append]
    omega
  have isValue := value_text v 0 _ maxDepth blank legible shallow enough follows
  have nothingLeft : skipSpace blank = [] := by
    rw [← List.append_nil blank, skipSpace_blank isBlank]
    rfl
  rw [← isText] at isValue
  unfold read
  simp only [isValue, nothingLeft]

/-- Nothing need follow the text. -/
theorem read?_text (style : Style) {v : Json} (legible : v.IsLegible) (shallow : v.depth ≤ maxDepth)
    {printed : String} (isText : printed.toList = style.text 0 v) : read? printed = some v := by
  have isBlank : Blank [] := nofun
  rw [read?, read_text style legible shallow isBlank (by rw [isText, List.append_nil])]
  rfl

end Style

variable {v : Json}

theorem read?_compact (legible : v.IsLegible) (shallow : v.depth ≤ maxDepth) :
    read? v.compact = some v :=
  Style.oneLine.read?_text legible shallow (Style.text_oneLine 0 v).symm

theorem read?_pretty (legible : v.IsLegible) (shallow : v.depth ≤ maxDepth) :
    read? v.pretty = some v :=
  Style.indented.read?_text legible shallow (Style.text_indented 0 v).symm

/-- The value over several lines may be closed by a line break. -/
theorem read_pretty (legible : v.IsLegible) (shallow : v.depth ≤ maxDepth) :
    read (v.pretty ++ "\n") = .ok v := by
  have isBlank : Blank ['\n'] := List.all_eq_true.1 rfl
  refine Style.indented.read_text legible shallow isBlank ?_
  rw [String.toList_append, Style.text_indented]
  rfl

end PlanCompiler.Json
