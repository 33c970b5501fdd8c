import EntitlementRules.Json.Printer
import EntitlementRules.Proofs.Json.Regular

/-! Printing: what is printed for a value is one of the texts that are written for it, where no number of it
is a binary64 number. -/
namespace EntitlementRules.Json

open Text.Utf8 (encode encode_append)

variable {inside bytes after part : Bytes} {value : Json} {depth : Nat}

/-! ## Strings -/

theorem characters_plain (plain : ∀ b ∈ part, 0x20 ≤ b ∧ b ≠ Ascii.quotation ∧ b ≠ Ascii.backslash)
    (rest : Characters inside bytes) : Characters (part ++ inside) (part ++ bytes) := by
  induction part with
  | nil => exact rest
  | cons b others ih =>
    obtain ⟨printable, unquoted, bare⟩ := plain b (.head _)
    exact .plain printable unquoted bare (ih fun other member => plain other (.tail _ member))

theorem characters_letter {letter c : Char} (known : (letter, c) ∈ letterEscapes)
    (rest : Characters inside bytes) :
    Characters (['\\', letter].flatMap String.utf8EncodeChar ++ inside)
      (String.utf8EncodeChar c ++ bytes) := by
  have single : ∀ entry ∈ letterEscapes,
      ['\\', entry.1].flatMap String.utf8EncodeChar = [Ascii.backslash, Ascii.byte entry.1] ∧
        String.utf8EncodeChar entry.2 = [Ascii.byte entry.2] := by
    decide
  obtain ⟨code, character⟩ := single _ known
  rw [code, character]
  exact .escaped (.letter known) rest

theorem characters_control {c : Char} (control : c.toNat < 0x20) (rest : Characters inside bytes) :
    Characters
      (['\\', 'u', '0', '0', Nat.digitChar (c.toNat / 16), Nat.digitChar (c.toNat % 16)].flatMap
        String.utf8EncodeChar ++ inside)
      (String.utf8EncodeChar c ++ bytes) := by
  have digits : ∀ digit < 16,
      String.utf8EncodeChar (Nat.digitChar digit) = [Ascii.byte (Nat.digitChar digit)] := by
    decide
  have high : c.toNat / 16 < 16 := by omega
  have low : c.toNat % 16 < 16 := by omega
  have zero : HexDigit (Ascii.byte '0') 0 := ⟨by decide, .inl rfl⟩
  have number := Hexadecimal.digits zero zero ⟨high, .inl rfl⟩ ⟨low, .inl rfl⟩
  have value : ((0 * 16 + 0) * 16 + c.toNat / 16) * 16 + c.toNat % 16 = c.toNat := by omega
  rw [value] at number
  have escape := Escape.unit number (.inl (by omega))
  rw [Char.ofNat_toNat] at escape
  have whole := Characters.escaped escape rest
  simp only [List.flatMap_cons, List.flatMap_nil, digits _ high, digits _ low]
  exact whole

theorem characters_escapeChar (c : Char) (rest : Characters inside bytes) :
    Characters ((escapeChar c).flatMap String.utf8EncodeChar ++ inside)
      (String.utf8EncodeChar c ++ bytes) := by
  unfold escapeChar
  split_ifs with quotation backslash backspace formFeed lineFeed carriageReturn tab control
  · obtain rfl := eq_of_beq quotation
    exact characters_letter (by decide) rest
  · obtain rfl := eq_of_beq backslash
    exact characters_letter (by decide) rest
  · obtain rfl := eq_of_beq backspace
    exact characters_letter (by decide) rest
  · obtain rfl := eq_of_beq formFeed
    exact characters_letter (by decide) rest
  · obtain rfl := eq_of_beq lineFeed
    exact characters_letter (by decide) rest
  · obtain rfl := eq_of_beq carriageReturn
    exact characters_letter (by decide) rest
  · obtain rfl := eq_of_beq tab
    exact characters_letter (by decide) rest
  · exact characters_control control rest
  · rw [List.flatMap_singleton]
    apply characters_plain _ rest
    intro b member
    by_cases ascii : b.toNat < 0x80
    · have same := Text.Utf8.ascii_of_mem_encodeChar member ascii
      refine ⟨?_, ?_, ?_⟩
      · rw [UInt8.le_iff_toNat_le, ← same]
        exact Nat.not_lt.mp control
      · rintro rfl
        exact quotation (beq_iff_eq.mpr (Char.toNat_inj.mp same))
      · rintro rfl
        exact backslash (beq_iff_eq.mpr (Char.toNat_inj.mp same))
    · refine ⟨?_, ?_, ?_⟩
      · rw [UInt8.le_iff_toNat_le]
        exact Nat.le_trans (by decide) (Nat.not_lt.mp ascii)
      · rintro rfl
        exact ascii (by decide)
      · rintro rfl
        exact ascii (by decide)

theorem literal_quote (text : String) : Literal (encode (quote text)) text := by
  have characters :
      Characters ((text.toList.flatMap escapeChar).flatMap String.utf8EncodeChar) (encode text) := by
    unfold encode
    induction text.toList with
    | nil => exact .nil
    | cons c rest ih =>
      rw [List.flatMap_cons, List.flatMap_append, List.flatMap_cons]
      exact characters_escapeChar c ih
  refine ⟨_, ?_, characters⟩
  rw [quote, encode, String.toList_ofList, List.flatMap_append, List.flatMap_cons]
  rfl

/-! ## Lines -/

/-- Texts on lines of their own, at a level, with commas between them. -/
def lines (level : Nat) : List String → String
  | [] => ""
  | [last] => newline level ++ last
  | first :: rest => newline level ++ first ++ "," ++ lines level rest

/-- Lines one level further in, with the start of the line that closes them. No texts take no lines. -/
def block (level : Nat) : List String → String
  | [] => ""
  | texts => lines (level + 1) texts ++ newline level

theorem prettyItems_eq (level : Nat) (items : List Json) :
    prettyItems level items = lines level (items.map (prettyAt level)) := by
  induction items with
  | nil => rfl
  | cons first rest ih =>
    cases rest with
    | nil => rfl
    | cons second others =>
      rw [prettyItems, ih]
      · rfl
      · nofun

theorem prettyMembers_eq (level : Nat) (members : List (String × Json)) :
    prettyMembers level members =
      lines level (members.map fun member => quote member.1 ++ ": " ++ prettyAt level member.2) := by
  induction members with
  | nil => rfl
  | cons first rest ih =>
    obtain ⟨key, content⟩ := first
    cases rest with
    | nil =>
      rw [prettyMembers]
      simp only [List.map_cons, List.map_nil, lines, String.append_assoc]
    | cons second others =>
      rw [prettyMembers, ih]
      · simp only [List.map_cons, lines, String.append_assoc]
      · nofun

theorem blanks_newline (level : Nat) : Blanks (encode (newline level)) := by
  intro b member
  rw [newline, encode_append] at member
  rcases List.mem_append.mp member with first | indent
  · cases List.mem_singleton.mp (show b ∈ [Ascii.lineFeed] from first)
    decide
  · rw [encode, String.toList_ofList] at indent
    obtain ⟨c, inside, written⟩ := List.mem_flatMap.mp indent
    rw [List.eq_of_mem_replicate inside] at written
    exact .inl (List.mem_singleton.mp written)

theorem listing_lines {α : Type} {item : α → Bytes → Prop} {text : α → String} {values : List α}
    (level : Nat) (filled : values ≠ []) (written : ∀ value ∈ values, item value (encode (text value)))
    (trailing : Blanks after) : Listing item values (encode (lines level (values.map text)) ++ after) := by
  induction values with
  | nil => exact absurd rfl filled
  | cons first rest ih =>
    have leads := written first (.head _)
    cases rest with
    | nil =>
      have whole := Listing.last (blanks_newline level) leads trailing
      simpa only [List.map_cons, List.map_nil, lines, encode_append, List.append_assoc] using whole
    | cons second others =>
      have later := ih nofun fun value member => written value (.tail _ member)
      have comma : encode "," = [Ascii.comma] := by decide
      have whole := Listing.next (blanks_newline level) leads blanks_nil later
      simpa only [List.map_cons, lines, encode_append, List.append_assoc, comma, List.nil_append,
        List.cons_append] using whole

theorem group_block {α : Type} {item : α → Bytes → Prop} {text : α → String} {values : List α} (level : Nat)
    (written : ∀ value ∈ values, item value (encode (text value))) :
    Group item values (encode (block level (values.map text))) := by
  cases values with
  | nil => exact .empty blanks_nil
  | cons first rest =>
    rw [List.map_cons, block, encode_append, ← List.map_cons]
    · exact .filled (listing_lines (level + 1) nofun written (blanks_newline level))
    · nofun

/-! ## Values -/

/-- No number of a value is a binary64 number. -/
inductive FloatFree : Json → Prop where
  | null : FloatFree .null
  | bool (flag : Bool) : FloatFree (.bool flag)
  | integer (value : Int) : FloatFree (.number (.integer value))
  | string (text : String) : FloatFree (.string text)
  | array {items : List Json} (parts : ∀ item ∈ items, FloatFree item) : FloatFree (.array items)
  | object {members : List (String × Json)} (parts : ∀ member ∈ members, FloatFree member.2) :
      FloatFree (.object members)

theorem prettyAt_array (level : Nat) (items : List Json) :
    prettyAt level (.array items) = "[" ++ block level (items.map (prettyAt (level + 1))) ++ "]" := by
  cases items with
  | nil => rfl
  | cons first rest =>
    rw [prettyAt, prettyItems_eq, List.map_cons, block]
    · simp only [String.append_assoc]
    · nofun
    · nofun

theorem prettyAt_object (level : Nat) (members : List (String × Json)) :
    prettyAt level (.object members) =
      "\x7b" ++ block level (members.map fun member => quote member.1 ++ ": " ++ prettyAt (level + 1) member.2)
        ++ "\x7d" := by
  cases members with
  | nil => rfl
  | cons first rest =>
    rw [prettyAt, prettyMembers_eq, List.map_cons, block]
    · simp only [String.append_assoc]
    · nofun
    · nofun

theorem member_written {written : Json → Bytes → Prop} {member : String × Json} {text : String}
    (content : written member.2 (encode text)) :
    Member written member (encode (quote member.1 ++ ": " ++ text)) := by
  have trailing : Blanks [32] := by
    intro b member
    exact .inl (List.mem_singleton.mp member)
  have separator : encode ": " = [Ascii.colon, 32] := by decide
  have whole := Member.named (literal_quote member.1) blanks_nil trailing content
  rw [encode_append, encode_append, separator, List.append_assoc]
  exact whole

theorem objectOf_prettyAt {members : List (String × Json)} (level : Nat)
    (written : ∀ member ∈ members, Spells StandsFor depth member.2 (encode (prettyAt (level + 1) member.2))) :
    ObjectOf StandsFor depth members (encode (prettyAt level (.object members))) := by
  have group := group_block level fun member inside => member_written (written member inside)
  refine ⟨_, ?_, group⟩
  rw [prettyAt_object, encode_append, encode_append, List.append_assoc]
  rfl

/-- What is printed for a regular value without binary64 numbers is written for it. -/
theorem spells_prettyAt (regular : Regular depth value) (floatFree : FloatFree value) (level : Nat) :
    Spells StandsFor depth value (encode (prettyAt level value)) := by
  -- Parts stand one level further in, so the induction is for all levels.
  induction regular generalizing level with
  | null => exact spells_of_scalar .null _
  | bool flag =>
    cases flag with
    | false => exact spells_of_scalar .false _
    | true => exact spells_of_scalar .true _
  | integer fits =>
    obtain ⟨numeral, stands⟩ := integer_written fits
    exact spells_of_scalar (.number numeral stands) _
  | float value => cases floatFree
  | string text => exact spells_of_scalar (.string (literal_quote text)) _
  | array _ ih =>
    cases floatFree with
    | array free =>
      have group := group_block level fun item member => ih item member (free item member) (level + 1)
      rw [prettyAt_array, encode_append, encode_append, List.append_assoc]
      exact .array group
  | object ordered _ ih =>
    cases floatFree with
    | object free =>
      obtain ⟨inside, same, group⟩ := objectOf_prettyAt level fun member inside =>
        ih member inside (free member inside) (level + 1)
      rw [same, ← ofMembers_of_ordered ordered]
      exact .object group

end EntitlementRules.Json
