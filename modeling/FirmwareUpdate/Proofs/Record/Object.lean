import FirmwareUpdate.Proofs.Record.Number
import FirmwareUpdate.Proofs.Record.Quoted
import FirmwareUpdate.Record.Fields
import Mathlib.Data.List.Nodup

/-!
# Reading back objects

An object is written with the members of all its fields in the order of the format. Where each field
reads its value back, the object is read back as the draft that all the fields have changed in turn.
-/

namespace FirmwareUpdate.Record

variable {ρ : Type} {rest : Bytes}

/-! ### Values -/

/-- A comma and the end of an object end a number. -/
theorem endsNumber_cons {b : UInt8} (h : b = 44 ∨ b = 125) (rest : Bytes) :
  EndsNumber (b :: rest)
  := by
  intro c hc
  obtain rfl := Option.some.inj hc
  obtain rfl | rfl := h <;> decide

theorem yields_readText (text : String) (rest : Bytes) :
  Reader.Yields readText (utf8 (Quoted.encode text) ++ rest) text rest
  := by
  rw [Quoted.utf8_encode, List.append_assoc, List.cons_append]
  apply (Reader.yields_peekVisible (by decide) _).bind
  dsimp only
  rw [if_pos rfl]
  apply (Reader.yields_drop _ _).bind
  apply Quoted.yields_text

theorem yields_readNatural {bound n : Nat} {name : String} (hbound : bound ≤ UInt64.size)
    (h : n < bound) (hrest : EndsNumber rest) :
  Reader.Yields (readNatural bound name) (Utf8.encode (Text.decimal n) ++ rest) n rest
  := by
  have hvalue : Reader.Yields (readNatural.accept bound name (.integer n)) rest n rest := by
    have hrange : (0 : Int) ≤ n ∧ (n : Int) < bound := by omega
    rw [readNatural.accept, if_pos hrange, Int.toNat_natCast]
    apply Reader.Yields.pure
  have hread := (Number.yields_read (Nat.lt_of_lt_of_le h hbound) hrest).bind hvalue
  obtain ⟨b, digits, htext, hdigit, -⟩ := Number.exists_decimal_cons n
  rw [htext, List.cons_append] at hread ⊢
  apply Reader.Yields.placed
  apply (Reader.yields_peekVisible (Reader.isSpace_of_isDigit hdigit) _).bind
  dsimp only
  rw [if_neg (by rintro rfl; cases hdigit), if_pos hdigit]
  exact hread

theorem yields_readFlag (flag : Bool) (rest : Bytes) :
  Reader.Yields readFlag (utf8 (toString flag) ++ rest) flag rest
  := by
  cases flag with
  | true =>
      apply (Reader.yields_peekVisible (by decide) _).bind
      apply (Reader.yields_word _ rest).bind
      apply Reader.Yields.pure
  | false =>
      apply (Reader.yields_peekVisible (by decide) _).bind
      apply (Reader.yields_word _ rest).bind
      apply Reader.Yields.pure

/-! ### Members -/

/-- The member of an object for a field: the text of a value, and what the value changes in a
draft. -/
structure Member (ρ : Type) where
  field : Field ρ
  value : String
  change : ρ → ρ

namespace Member

variable {member : Member ρ} {members : List (Member ρ)} {format : Format ρ} {seen : List String}
  {draft : ρ} {count : Nat}

/-- The key of a member. -/
def name (member : Member ρ) : String :=
  member.field.name

/-- The text of a member. -/
def text (member : Member ρ) : String :=
  s!"{Quoted.encode member.name}:{member.value}"

/-- The text of an object with some members. -/
def object (members : List (Member ρ)) : String :=
  "\x7b" ++ ",".intercalate (members.map text) ++ "\x7d"

/-- The draft that the values of members change in turn. -/
def applied (members : List (Member ρ)) (draft : ρ) : ρ :=
  members.foldl (fun draft member => member.change draft) draft

/-- The field of a member reads the value wherever a number would end after it. -/
def IsRead (member : Member ρ) : Prop :=
  ∀ rest, EndsNumber rest →
    Reader.Yields member.field.read (utf8 member.value ++ rest) member.change rest

/-- The bytes of the members of an object, in front of which other members may stand. -/
def bytes (isFirst : Bool) : List (Member ρ) → Bytes
  | [] => []
  | member :: members => (if isFirst then [] else [44]) ++ utf8 member.text ++ bytes false members

/-- The bytes of a member are those of its key, a colon and those of the value. -/
theorem utf8_text (member : Member ρ) :
  utf8 member.text = utf8 (Quoted.encode member.name) ++ 58 :: utf8 member.value
  := by
  have hcolon : utf8 ":" = [58] := by decide
  have htext : member.text = Quoted.encode member.name ++ ":" ++ member.value := by
    simp [text, toString]
  rw [htext, Utf8.utf8_append, Utf8.utf8_append, hcolon, List.append_assoc, List.singleton_append]

theorem utf8_object (members : List (Member ρ)) :
  utf8 (object members) = 123 :: bytes true members ++ [125]
  := by
  have hopening : utf8 "\x7b" = [123] := by decide
  have hcomma : utf8 "," = [44] := by decide
  have hclosing : utf8 "\x7d" = [125] := by decide
  have hmembers : utf8 (",".intercalate (members.map text)) = bytes true members := by
    cases members with
    | nil => rfl
    | cons member members =>
        induction members generalizing member with
        | nil => simp [bytes]
        | cons next members ih =>
            rw [List.map_cons, List.map_cons, String.intercalate_cons_cons, Utf8.utf8_append,
              Utf8.utf8_append, hcomma, ← List.map_cons, ih next]
            simp [bytes]
  rw [object, Utf8.utf8_append, Utf8.utf8_append, hopening, hclosing, hmembers]
  rfl

theorem length_le_bytes (isFirst : Bool) (members : List (Member ρ)) :
  members.length ≤ (bytes isFirst members).length
  := by
  induction members generalizing isFirst with
  | nil => exact Nat.zero_le _
  | cons member members ih =>
      have hrest := ih false
      have htext : 0 < (utf8 member.text).length := by
        rw [utf8_text, List.length_append, List.length_cons]
        omega
      rw [bytes, List.length_append, List.length_append, List.length_cons]
      omega

/-- An object is longer than the text of each value. -/
theorem length_value_le {value : String} (h : value ∈ members.map Member.value) :
  (utf8 value).length ≤ (utf8 (object members)).length
  := by
  have hbytes (isFirst : Bool) : (utf8 value).length ≤ (bytes isFirst members).length := by
    induction members generalizing isFirst with
    | nil => cases h
    | cons member members ih =>
        rw [bytes, List.length_append, List.length_append, utf8_text, List.length_append,
          List.length_cons]
        obtain rfl | h := List.mem_cons.mp h
        · omega
        · have hrest := ih h false
          omega
  have hlength := hbytes true
  rw [utf8_object, List.length_append, List.length_cons]
  omega

/-- What follows a value in an object ends a number. -/
theorem endsNumber_bytes (members : List (Member ρ)) (rest : Bytes) :
  EndsNumber (bytes false members ++ 125 :: rest)
  := by
  cases members with
  | nil => exact endsNumber_cons (.inr rfl) rest
  | cons member members => exact endsNumber_cons (.inl rfl) _

theorem yields_readKey (name : String) (rest : Bytes) :
  Reader.Yields readKey (utf8 (Quoted.encode name) ++ rest) name rest
  := by
  rw [Quoted.utf8_encode, List.append_assoc, List.cons_append]
  apply (Reader.yields_peek _).bind
  rw [if_pos (by rfl)]
  apply (Reader.yields_drop _ _).bind
  apply Quoted.yields_text

theorem yields_readColon (rest : Bytes) :
  Reader.Yields readColon (58 :: rest) () rest
  := by
  apply (Reader.yields_peekVisible (by decide) rest).bind
  apply Reader.yields_drop

/-- Another member comes next, after a comma unless it is the first one. -/
theorem yields_hasNext (isFirst : Bool) (member : Member ρ) (rest : Bytes) :
  Reader.Yields (hasNext .object isFirst)
    ((if isFirst then [] else [44]) ++ utf8 member.text ++ rest) true (utf8 member.text ++ rest)
  := by
  rw [utf8_text, Quoted.utf8_encode, List.append_assoc, List.cons_append, List.cons_append]
  cases isFirst with
  | true =>
      apply (Reader.yields_peekVisible (by decide) _).bind
      dsimp only
      rw [if_neg (by decide), if_pos rfl]
      apply Reader.Yields.pure
  | false =>
      apply (Reader.yields_peekVisible (by decide) _).bind
      dsimp only
      rw [if_neg (by decide), if_neg (by decide), if_pos rfl]
      apply (Reader.yields_drop _ _).bind
      apply (Reader.yields_peekVisible (by decide) _).bind
      dsimp only
      rw [if_neg (by decide)]
      apply Reader.Yields.pure

theorem yields_hasNext_end (isFirst : Bool) (rest : Bytes) :
  Reader.Yields (hasNext .object isFirst) (125 :: rest) false (125 :: rest)
  := by
  apply (Reader.yields_peekVisible (by decide) rest).bind
  apply Reader.Yields.pure

/-- The members of an object are read one after another, where none of the fields has been read
before. -/
theorem yields_readEntries
    (hfields : ∀ member ∈ members,
      format.fields.find? (·.name == member.name) = some member.field)
    (hread : ∀ member ∈ members, member.IsRead)
    (hnodup : (members.map name).Nodup)
    (hseen : ∀ member ∈ members, member.name ∉ seen)
    (hcount : members.length < count) (isFirst : Bool) (rest : Bytes) :
  Reader.Yields (format.readEntries count isFirst seen draft)
    (bytes isFirst members ++ 125 :: rest)
    ((members.map name).reverse ++ seen, applied members draft) (125 :: rest)
  := by
  induction members generalizing count isFirst seen draft with
  | nil =>
      obtain ⟨steps, rfl⟩ : ∃ n, count = n + 1 := ⟨count - 1, (Nat.succ_pred_eq_of_pos hcount).symm⟩
      apply (yields_hasNext_end isFirst rest).bind
      apply Reader.Yields.pure
  | cons member members ih =>
      obtain ⟨steps, rfl⟩ : ∃ n, count = n + 1 := ⟨count - 1, by omega⟩
      have hmember := List.mem_cons_self (a := member) (l := members)
      rw [List.map_cons, List.nodup_cons] at hnodup
      have hunseen : ∀ e ∈ members, e.name ∉ member.name :: seen := by
        intro e he hmem
        obtain hsame | hmem := List.mem_cons.mp hmem
        · exact hnodup.1 (hsame ▸ List.mem_map_of_mem he)
        · exact hseen e (List.mem_cons_of_mem member he) hmem
      have hsteps : members.length < steps := by
        rw [List.length_cons] at hcount
        omega
      have hrest : Reader.Yields
          (format.readEntries steps false (member.name :: seen) (member.change draft))
          (bytes false members ++ 125 :: rest)
          ((members.map name).reverse ++ member.name :: seen, applied members (member.change draft))
          (125 :: rest) :=
        ih (fun e he => hfields e (List.mem_cons_of_mem member he))
          (fun e he => hread e (List.mem_cons_of_mem member he)) hnodup.2 hunseen hsteps false
      rw [bytes, List.append_assoc]
      apply (yields_hasNext isFirst member _).bind
      rw [if_pos rfl, utf8_text, List.append_assoc]
      apply (yields_readKey member.name _).bind
      rw [hfields member hmember]
      dsimp only
      rw [if_neg (by simpa using hseen member hmember)]
      apply (yields_readColon _).bind
      apply (hread member hmember _ (endsNumber_bytes members rest)).bind
      simpa [applied] using hrest

/-- The value of a member is read if a reader of its field reads it. -/
theorem isRead_of {α : Type} {reader : Reader α} {change : α → ρ → ρ} {a : α}
    (hfield : member.field.read = change <$> reader) (hchange : member.change = change a)
    (h : ∀ rest, EndsNumber rest → Reader.Yields reader (utf8 member.value ++ rest) a rest) :
  member.IsRead
  := by
  intro rest hrest
  rw [hfield, hchange]
  exact (h rest hrest).map change

end Member

/-! ### Objects -/

namespace Format

open Member

variable {format : Format ρ} {members : List (Member ρ)}

/-- The members that the fields of a format have with the given texts and changes. -/
def withValues (format : Format ρ) (values : List (String × (ρ → ρ))) : List (Member ρ) :=
  List.zipWith (fun field value => ⟨field, value.1, value.2⟩) format.fields values

/-- Members for all the fields of a format in order, whose names differ and which are read. -/
structure Describes (members : List (Member ρ)) (format : Format ρ) : Prop where
  fields_eq : format.fields = members.map Member.field
  nodup : (format.fields.map Field.name).Nodup
  isRead : ∀ member ∈ members, member.IsRead

theorem Describes.nodup_names (h : Describes members format) :
  (members.map Member.name).Nodup
  := by
  have hnames : format.fields.map Field.name = members.map Member.name := by
    rw [h.fields_eq, List.map_map]
    rfl
  rw [← hnames]
  exact h.nodup

/-- A field of a format is the only one of its name. -/
theorem Describes.find?_eq (h : Describes members format) {member : Member ρ}
    (hmember : member ∈ members) :
  format.fields.find? (·.name == member.name) = some member.field
  := by
  have hsome : (members.find? fun other => other.name == member.name).isSome :=
    List.find?_isSome.mpr ⟨member, hmember, beq_self_eq_true _⟩
  obtain ⟨found, hfound⟩ := Option.isSome_iff_exists.mp hsome
  have hname : found.name = member.name := by simpa using List.find?_some hfound
  have hsame : found = member :=
    List.inj_on_of_nodup_map h.nodup_names (List.mem_of_find?_eq_some hfound) hmember hname
  have hcomp : (fun field : Field ρ => field.name == member.name) ∘ Member.field
      = fun other => other.name == member.name := rfl
  rw [h.fields_eq, List.find?_map, hcomp, hfound, hsame, Option.map_some]

theorem Describes.yields_readObject (h : Describes members format) (draft : ρ) (rest : Bytes) :
  Reader.Yields (format.readObject draft) (bytes true members ++ 125 :: rest)
    (applied members draft) (125 :: rest)
  := by
  have hcount : members.length < (bytes true members ++ 125 :: rest).length + 1 := by
    have hlength := length_le_bytes true members
    rw [List.length_append]
    omega
  have hmissing : format.fields.find? (fun field => !field.mayMiss
      && !((members.map Member.name).reverse ++ []).contains field.name)
      = none := by
    rw [List.find?_eq_none, h.fields_eq]
    intro field hfield
    obtain ⟨member, hmember, rfl⟩ := List.mem_map.mp hfield
    have hread : (members.map Member.name).contains member.field.name = true :=
      List.contains_iff_mem.mpr (List.mem_map_of_mem hmember)
    rw [List.append_nil, List.contains_reverse, hread, Bool.not_true, Bool.and_false]
    exact Bool.false_ne_true
  apply (Reader.yields_get _).bind
  apply (yields_readEntries (fun member => h.find?_eq) h.isRead h.nodup_names
    (fun _ _ => List.not_mem_nil) hcount true rest).bind
  dsimp only
  rw [hmissing]
  apply Reader.Yields.pure

/-- An object with members for all fields is read as the draft that they change in turn. -/
theorem Describes.yields_read (h : Describes members format) (draft : ρ) (rest : Bytes) :
  Reader.Yields (format.read draft) (utf8 (object members) ++ rest) (applied members draft) rest
  := by
  rw [utf8_object, List.append_assoc, List.cons_append]
  apply Reader.Yields.placed
  apply (Reader.yields_peekVisible (by decide) _).bind
  apply (Reader.yields_drop _ _).bind
  apply (h.yields_readObject draft rest).attempt.bind
  have hend : Reader.Yields (readEnd .object) (125 :: rest) () rest := by
    apply (Reader.yields_peekVisible (by decide) rest).bind
    apply Reader.yields_drop
  apply hend.attempt.bind
  apply Reader.Yields.pure

/-- A text that is nothing but such an object is read in full. -/
theorem Describes.readAll_eq (h : Describes members format) (draft : ρ) :
  format.readAll draft (utf8 (object members)) = .ok (applied members draft)
  := by
  have hread := h.yields_read draft []
  rw [List.append_nil] at hread
  have hwhole : Reader.Yields (readAll.whole format draft) (utf8 (object members))
      (applied members draft) [] := by
    apply hread.bind
    apply Reader.yields_peekVisible_nil.bind
    apply Reader.Yields.pure
  exact congrArg Prod.fst hwhole

end Format

end FirmwareUpdate.Record
