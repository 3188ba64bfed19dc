import FlowPeers.Json.Record
import FlowPeers.Proofs.JsonTokens
import FlowPeers.Proofs.Utf8

/-!
# JSON that is written reads back

A value in which every number is one and every string spells a text (`Json.IsWellFormed`) is read
back from its written form and from the bytes of it (`Json.read?_print`, `Json.readBytes?_print`).
What a reader makes of a text is `Reader.reads?`, which follows it token by token. When it has read a
value that is written, it stands where it stands after the value (`Reader.Reads`); this is proved by
induction on the value, the items of a list and the members of an object being read one after the
other.

A record is written as an object with its fields, and each of them is found again by its name
(`Json.fields?_record`).
-/

namespace FlowPeers.Json

open Text

/-! ## The reader -/

/-- Whether every number in a value is one, and every string spells a text. -/
inductive IsWellFormed : Json → Prop
  | null : IsWellFormed .null
  | bool (b : Bool) : IsWellFormed (.bool b)
  | number {digits : List Char} (h : isNumber digits) : IsWellFormed (.number digits)
  | string (s : List Char) : IsWellFormed (.string (some s))
  | list {items : List Json} (hitems : ∀ item ∈ items, IsWellFormed item) :
      IsWellFormed (.list items)
  | object {members : List (Option (List Char) × Json)}
      (hnames : ∀ member ∈ members, member.1.isSome)
      (hvalues : ∀ member ∈ members, IsWellFormed member.2) : IsWellFormed (.object members)

namespace Reader

/-- What the reader makes of a text. -/
def reads? (r : Reader) (text : List (Option Char)) : Option Json :=
  (Token.scan? .between text).bind r.run?

/-- The reader reads the token in front, and then the rest. -/
theorem reads?_of_heads {token : Token} {text rest : List (Option Char)}
    (h : Token.Heads token text rest) (r : Reader) :
    r.reads? text = (r.step? token).bind (·.reads? rest) := by
  rw [reads?, h]
  simp only [reads?]
  cases Token.scan? .between rest with
  | none => cases r.step? token <;> rfl
  | some tokens =>
    simp only [Option.map_some, Option.bind_some, run?]
    cases r.step? token <;> rfl

/-- The reader reads a character that is a token by itself. -/
theorem reads?_cons {c : Char} {token : Token}
    (h : Token.begin? c = some (some token, .between)) {r r' : Reader}
    (hstep : r.step? token = some r') (rest : List (Option Char)) :
    r.reads? (some c :: rest) = r'.reads? rest := by
  rw [reads?_of_heads (Token.heads_of_begin? h rest), hstep]
  rfl

/-- Whether a reader begins a value, which is to stand on a stack. -/
def BeginsValue (r : Reader) (stack : List Frame) : Prop :=
  ∀ token, token ≠ .closeList → r.step? token = beginValue? stack token

theorem beginsValue_value (stack : List Frame) : BeginsValue ⟨stack, .value⟩ stack :=
  fun _ _ => rfl

theorem beginsValue_item (stack : List Frame) :
    BeginsValue ⟨stack, .item⟩ (.list [] :: stack) := by
  intro token htoken
  cases token with
  | closeList => exact absurd rfl htoken
  | _ => rfl

/-- Whether a reader begins a name, which is to stand after some members. -/
def BeginsName (r : Reader) (stack : List Frame) (members : List (Option (List Char) × Json)) :
    Prop :=
  ∀ inside, r.step? (.string inside) = some ⟨stack, .colon members (readString? inside)⟩

/-- Whether the reader stands after a value when it has read its written form, wherever a value may
begin. -/
def Reads (value : Json) : Prop :=
  ∀ (r : Reader) (stack : List Frame), r.BeginsValue stack → ∀ rest, Token.IsCut rest →
    r.reads? ((print value).map some ++ rest) = Reader.reads? ⟨stack, .rest value⟩ rest

/-- A value that is one token. -/
theorem reads?_leaf {token : Token} {value : Json} {r : Reader} {stack : List Frame}
    (hr : r.BeginsValue stack) (hvalue : leaf? token = some value)
    {text rest : List (Option Char)} (h : Token.Heads token text rest) :
    r.reads? text = Reader.reads? ⟨stack, .rest value⟩ rest := by
  have hbegin : beginValue? stack token = some ⟨stack, .rest value⟩ := by
    rw [beginValue?.eq_def]
    split
    · cases hvalue
    · cases hvalue
    · rw [hvalue]
      rfl
  have hclose : token ≠ .closeList := by
    rintro rfl
    cases hvalue
  rw [reads?_of_heads h, hr token hclose, hbegin]
  rfl

/-! ### Lists -/

theorem isCut_printMoreItems (items : List Json) (rest : List (Option Char)) :
    Token.IsCut ((printMoreItems items).map some ++ some ']' :: rest) := by
  cases items with
  | nil => exact Token.isCut_cons rfl rfl rest
  | cons item items => exact Token.isCut_cons rfl rfl _

/-- The items after one that was read are read to the end of the list. -/
theorem reads?_printMoreItems {items : List Json} (hitems : ∀ item ∈ items, Reads item)
    (before : List Json) (last : Json) (stack : List Frame) (rest : List (Option Char)) :
    Reader.reads? ⟨.list before :: stack, .rest last⟩
        ((printMoreItems items).map some ++ some ']' :: rest) =
      Reader.reads? ⟨stack, .rest (.list ((last :: before).reverse ++ items))⟩ rest := by
  induction items generalizing before last with
  | nil =>
    rw [List.append_nil]
    exact reads?_cons rfl rfl rest
  | cons item items ih =>
    rw [List.forall_mem_cons] at hitems
    simp only [printMoreItems, List.map_cons, List.map_append, List.cons_append,
      List.append_assoc]
    refine (reads?_cons rfl rfl _).trans ?_
    rw [hitems.1 _ _ (beginsValue_value _) _ (isCut_printMoreItems items rest), ih hitems.2]
    simp

theorem reads_list {items : List Json} (hitems : ∀ item ∈ items, Reads item) :
    Reads (.list items) := by
  intro r stack hr rest hrest
  have hopen : r.step? .openList = some ⟨stack, .item⟩ := hr _ (by simp)
  cases items with
  | nil => exact (reads?_cons rfl hopen _).trans (reads?_cons rfl rfl rest)
  | cons item items =>
    rw [List.forall_mem_cons] at hitems
    simp only [print, printItems, List.map_cons, List.map_append, List.map_nil, List.cons_append,
      List.nil_append, List.append_assoc]
    refine (reads?_cons rfl hopen _).trans ?_
    rw [hitems.1 _ _ (beginsValue_item _) _ (isCut_printMoreItems items rest)]
    exact reads?_printMoreItems hitems.2 [] item stack rest

/-! ### Objects -/

theorem isCut_printMoreMembers (members : List (Option (List Char) × Json))
    (rest : List (Option Char)) :
    Token.IsCut ((printMoreMembers members).map some ++ some '\x7d' :: rest) := by
  cases members with
  | nil => exact Token.isCut_cons rfl rfl rest
  | cons member members => exact Token.isCut_cons rfl rfl _

/-- After a member the reader stands after the value of it, in the object. -/
theorem reads?_printMember {r : Reader} {stack : List Frame}
    {before : List (Option (List Char) × Json)} (hr : r.BeginsName stack before)
    {name : Option (List Char)} {value : Json} (hname : name.isSome) (hvalue : Reads value)
    {rest : List (Option Char)} (hrest : Token.IsCut rest) :
    r.reads? ((printMember (name, value)).map some ++ rest) =
      Reader.reads? ⟨.object before name :: stack, .rest value⟩ rest := by
  obtain ⟨text, rfl⟩ := Option.isSome_iff_exists.1 hname
  simp only [printMember, Option.getD_some, List.map_append, List.map_cons, List.append_assoc,
    List.cons_append]
  rw [reads?_of_heads (Token.heads_printText text _), hr, readString?_flatMap, Option.bind_some]
  refine (reads?_cons rfl rfl _).trans ?_
  exact hvalue _ _ (beginsValue_value _) rest hrest

theorem reads?_printMoreMembers {members : List (Option (List Char) × Json)}
    (hnames : ∀ member ∈ members, member.1.isSome) (hvalues : ∀ member ∈ members, Reads member.2)
    (before : List (Option (List Char) × Json)) (name : Option (List Char)) (last : Json)
    (stack : List Frame) (rest : List (Option Char)) :
    Reader.reads? ⟨.object before name :: stack, .rest last⟩
        ((printMoreMembers members).map some ++ some '\x7d' :: rest) =
      Reader.reads?
        ⟨stack, .rest (.object (((name, last) :: before).reverse ++ members))⟩ rest := by
  induction members generalizing before name last with
  | nil =>
    rw [List.append_nil]
    exact reads?_cons rfl rfl rest
  | cons member members ih =>
    rw [List.forall_mem_cons] at hnames hvalues
    have hcut := isCut_printMoreMembers members rest
    simp only [printMoreMembers, List.map_cons, List.map_append, List.cons_append,
      List.append_assoc]
    refine (reads?_cons rfl rfl _).trans ?_
    rw [reads?_printMember (fun _ => rfl) hnames.1 hvalues.1 hcut, ih hnames.2 hvalues.2]
    simp

theorem reads_object {members : List (Option (List Char) × Json)}
    (hnames : ∀ member ∈ members, member.1.isSome)
    (hvalues : ∀ member ∈ members, Reads member.2) : Reads (.object members) := by
  intro r stack hr rest hrest
  have hopen : r.step? .openObject = some ⟨stack, .firstName⟩ := hr _ (by simp)
  cases members with
  | nil => exact (reads?_cons rfl hopen _).trans (reads?_cons rfl rfl rest)
  | cons member members =>
    rw [List.forall_mem_cons] at hnames hvalues
    have hcut := isCut_printMoreMembers members rest
    simp only [print, printMembers, List.map_cons, List.map_append, List.map_nil,
      List.cons_append, List.nil_append, List.append_assoc]
    refine (reads?_cons rfl hopen _).trans ?_
    rw [reads?_printMember (fun _ => rfl) hnames.1 hvalues.1 hcut]
    exact reads?_printMoreMembers hnames.2 hvalues.2 [] member.1 member.2 stack rest

/-! ### Values -/

/-- After the written form of a value the reader stands after the value. -/
theorem reads_of_isWellFormed {value : Json} (h : value.IsWellFormed) : Reads value := by
  induction h with
  | null =>
    intro r stack hr rest hrest
    exact reads?_leaf hr rfl (Token.heads_word rfl (List.all_eq_true.1 (by decide)) hrest)
  | bool b =>
    intro r stack hr rest hrest
    cases b with
    | false => exact reads?_leaf hr rfl (Token.heads_word rfl (List.all_eq_true.1 (by decide)) hrest)
    | true => exact reads?_leaf hr rfl (Token.heads_word rfl (List.all_eq_true.1 (by decide)) hrest)
  | @number digits hdigits =>
    intro r stack hr rest hrest
    refine reads?_leaf hr ?_ (heads_of_isNumber hdigits hrest)
    rw [leaf?, if_pos hdigits]
  | string s =>
    intro r stack hr rest hrest
    refine reads?_leaf hr ?_ (Token.heads_printText s rest)
    rw [leaf?, readString?_flatMap]
  | list hitems ih => exact reads_list ih
  | object hnames hvalues ih => exact reads_object hnames ih

end Reader

theorem readUnits?_eq_reads? (text : List (Option Char)) :
    readUnits? text = Reader.reads? ⟨[], .value⟩ text := by
  rw [readUnits?, Reader.reads?]
  cases Token.scan? .between text <;> rfl

/-- **A value is read back from its written form.** -/
theorem read?_print {value : Json} (h : value.IsWellFormed) : read? (print value) = some value := by
  have hread := Reader.reads_of_isWellFormed h ⟨[], .value⟩ [] (Reader.beginsValue_value _) []
    Token.isCut_nil
  rw [List.append_nil, ← readUnits?_eq_reads?] at hread
  exact hread

/-- A value is read back from the bytes of its written form. -/
theorem readBytes?_print {value : Json} (h : value.IsWellFormed) :
    readBytes? (encode (print value)) = some value := by
  rw [readBytes?, decode_encode]
  exact read?_print h

/-! ## Records -/

theorem isWellFormed_text (s : String) : (text s).IsWellFormed :=
  .string s.toList

theorem isWellFormed_nat (n : Nat) : (nat n).IsWellFormed :=
  .number (isNumber_decimal n)

theorem isWellFormed_record {members : List (String × Json)}
    (h : ∀ member ∈ members, member.2.IsWellFormed) : (record members).IsWellFormed := by
  refine .object ?_ ?_
  · intro member hmember
    obtain ⟨named, -, rfl⟩ := List.mem_map.1 hmember
    rfl
  · intro member hmember
    obtain ⟨named, hnamed, rfl⟩ := List.mem_map.1 hmember
    exact h named hnamed

theorem isWellFormed_list_map {α : Type} {write : α → Json} (h : ∀ a, (write a).IsWellFormed)
    (items : List α) : (list (items.map write)).IsWellFormed := by
  refine .list fun item hitem => ?_
  obtain ⟨a, -, rfl⟩ := List.mem_map.1 hitem
  exact h a

/-- What an object gives for a name when no two of its members have the same name. -/
theorem given_record {members : List (String × Json)} (h : (members.map (·.1)).Nodup)
    (name : String) :
    given name.toList (members.map fun member => (some member.1.toList, member.2)) =
      (members.lookup name).toList := by
  induction members with
  | nil => rfl
  | cons member members ih =>
    rw [List.map_cons, List.nodup_cons] at h
    have hrest := ih h.2
    rw [given] at hrest ⊢
    rw [List.map_cons, List.filter_cons, List.lookup_cons]
    by_cases hname : name = member.1
    · have hnone : members.lookup name = none := by
        rw [List.lookup_eq_none_iff]
        intro other hother
        rw [bne_iff_ne, hname]
        exact fun heq => h.1 (heq ▸ List.mem_map_of_mem hother)
      rw [hnone] at hrest
      simpa [hname] using hrest
    · have hother : (some member.1.toList == some name.toList) = false := by
        simpa [String.toList_inj] using fun heq => hname heq.symm
      rw [if_neg (by rw [hother]; simp), hrest, beq_eq_false_iff_ne.2 hname]

/-- **The fields of a record are found by their names.** -/
theorem fields?_record {members : List (String × Json)} (h : (members.map (·.1)).Nodup)
    (names : List String) :
    (record members).fields? names = some (names.map fun name => members.lookup name) := by
  have hnames : (members.map fun member => (some member.1.toList, member.2)).all (·.1.isSome) := by
    simp
  have hvalues : (names.map fun name => given name.toList
      (members.map fun member => (some member.1.toList, member.2))).all (·.length ≤ 1) := by
    simp only [given_record h, List.all_map, List.all_eq_true, Function.comp_apply]
    intro name _
    cases members.lookup name <;> rfl
  rw [record, fields?, if_pos (by rw [hnames, hvalues]; rfl)]
  simp [given_record h]

/-- A list of values is read as the list of what they were written from. -/
theorem list?_map {α β : Type} {write : α → Json} {read? : Json → Option β} {f : α → β}
    (h : ∀ a, read? (write a) = some (f a)) (items : List α) :
    list? read? (list (items.map write)) = some (items.map f) := by
  rw [list?]
  induction items with
  | nil => rfl
  | cons a items ih =>
    rw [List.map_cons, List.mapM_cons, h, ih]
    rfl

@[simp] theorem text?_text (s : String) : text? (text s) = some s := by
  simp [text, text?]

theorem natBelow?_nat {n bound : Nat} (h : n < bound) : natBelow? bound (nat n) = some n := by
  rw [nat, natBelow?, readDecimal?_decimal]
  exact if_pos h

@[simp] theorem uint64?_nat (n : UInt64) : uint64? (nat n.toNat) = some n := by
  rw [uint64?, natBelow?_nat n.toNat_lt_size, Option.map_some, UInt64.ofNat_toNat]

@[simp] theorem uint16?_nat (n : UInt16) : uint16? (nat n.toNat) = some n := by
  rw [uint16?, natBelow?_nat n.toNat_lt_size, Option.map_some, UInt16.ofNat_toNat]

end FlowPeers.Json
