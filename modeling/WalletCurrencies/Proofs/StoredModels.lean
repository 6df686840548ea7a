import WalletCurrencies.Codecs
import WalletCurrencies.Proofs.ObjectText
import WalletCurrencies.Proofs.PrintedNumber
import WalletCurrencies.Proofs.PrintedText
import WalletCurrencies.Proofs.PrintedValue

/-! What is stored on its own is read back as it was. A record is printed with every field in its place and
under its own key, so reading it back fills the whole draft again. -/

namespace WalletCurrencies

namespace Json

variable {α δ : Type}

/-- A printed value is taken back, whatever it is followed by. -/
def Reader.Restores (reader : Reader α) (write : α → Value) : Prop :=
  ∀ value {blanks rest}, Blanks blanks → Ends rest →
    reader (blanks ++ ((write value).print ++ rest)) = .ok (value, rest)

theorem Codec.ofText_toText {codec : Codec α} (restores : codec.read.Restores codec.write) (value : α) :
    codec.ofText (codec.toText value) = .ok value := by
  have read : codec.read (codec.write value).print = .ok (value, []) := by
    simpa using restores value blanks_nil ends_nil
  refine Reader.run_eq_ok_iff.mpr ⟨[], ?_, blanks_nil⟩
  rwa [Codec.toText, Value.toText, String.toList_ofList]

namespace Reader

theorem text_restores : text.Restores Value.text := by
  intro value blanks rest blank _
  have printed : (Value.text value).print ++ rest = '"' :: (value.toList.flatMap escapedChar ++ '"' :: rest) := by
    simp [Value.print, printText]
  rw [printed, text, skipBlanks_between blank (by decide)]
  exact textBody_escaped value rest

theorem byte_restores : byte.Restores fun value => .ofNat value.toNat := by
  intro value blanks rest blank ends
  have read : number ((Number.whole value.toNat).print ++ rest) = .ok (.whole value.toNat, rest) :=
    number_whole (exact_byte value) ends.stops
  have back : Number.toByte (.whole value.toNat) = .ok value := by
    have small : value.toNat < 256 := value.toNat_lt
    rw [Number.toByte, if_pos (by omega), Int.toNat_natCast]
    simp
  obtain ⟨c, chars, printed, starts⟩ := Number.print_starts value.toNat
  have digits : (Value.ofNat value.toNat).print = c :: chars := printed
  rw [printed] at read
  rw [digits, List.cons_append, byte, skipBlanks_between blank starts.not_blank]
  have isNumber : c = '-' ∨ (Text.digitValue? c).isSome = true := starts
  simp only [List.cons_append] at read
  simp only [isNumber, if_true, read, back, bind, Except.bind]
  rfl

end Reader

theorem Codec.wrapping_restores {wrap : String → α} {unwrap : α → String}
    (inverse : ∀ value, wrap (unwrap value) = value) :
    (Codec.wrapping wrap unwrap).read.Restores (Codec.wrapping wrap unwrap).write := by
  intro value blanks rest blank ends
  have back : Except.ok (wrap (unwrap value), rest) = (.ok (value, rest) : Except Fault _) := by rw [inverse]
  exact bind_eq_ok_iff.mpr ⟨_, Reader.text_restores (unwrap value) blank ends, back⟩

/-- The members of a printed object. -/
def printed (members : List (String × Value)) : List (String × List Char) :=
  members.map fun member => (member.1, member.2.print)

theorem members_member {first : Bool} {lead rest : List Char} {members : List (String × List Char)}
    (leads : Leads first lead) (key : String) (value : Value) (later : Members false rest members) :
    Members first (lead ++ (Value.printMember (key, value) ++ rest)) ((key, value.print) :: members) := by
  rw [Value.printMember_append]
  exact .member leads (spellsText_escaped key) blanks_nil blanks_nil later

theorem members_afterCommas (members : List (String × Value)) :
    Members false (Value.afterCommas (members.map Value.printMember) ++ ['\x7d']) (printed members) := by
  induction members with
  | nil => exact .close blanks_nil
  | cons member members ih =>
    rw [List.map_cons, Value.afterCommas_cons, List.cons_append, List.append_assoc]
    exact members_member (.later blanks_nil blanks_nil) member.1 member.2 ih

theorem members_printMembers (members : List (String × Value)) :
    Members true (Value.printMembers members ++ ['\x7d']) (printed members) := by
  cases members with
  | nil => exact .close blanks_nil
  | cons member members =>
    rw [Value.printMembers_cons, List.append_assoc]
    exact members_member (.first blanks_nil) member.1 member.2 (members_afterCommas members)

theorem record_restores {shape : Shape δ α} {write : α → List (String × Value)}
    (fills : ∀ value, ∃ draft, Fills shape.fields shape.blank (printed (write value)) draft ∧
      shape.complete draft = .ok value) : (Reader.record shape).Restores fun value => .object (write value) := by
  intro value blanks rest blank _
  obtain ⟨draft, filled, complete⟩ := fills value
  have object : (Value.object (write value)).print ++ rest =
      '\x7b' :: ((Value.printMembers (write value) ++ ['\x7d']) ++ rest) := by simp [Value.print]
  rw [object]
  exact Reader.record_append blank (members_printMembers _) filled complete rest

section Storing

variable {β : Type} {name : String} {required : Bool} {reader : Reader β} {write : β → Value} {stored : δ → Option β}
  {store : δ → β → δ} {fields : List (Field δ)} {draft result : δ} {members : List (String × List Char)}

/-- A printed value fills its field, if nothing does yet. -/
theorem fills_printed (restores : reader.Restores write) (value : β)
    (known : fields.find? (·.name == name) = some (.storing name required reader stored store))
    (fresh : stored draft = none) (later : Fills fields (store draft value) members result) :
    Fills fields draft ((name, (write value).print) :: members) result := by
  refine .known known ?_ ?_ later
  · exact Option.isSome_eq_false_iff.mpr (Option.isNone_iff_eq_none.mpr fresh)
  · intro blanks rest blank ends
    exact bind_eq_ok_iff.mpr ⟨_, restores value blank ends, rfl⟩

end Storing

end Json

open Json

theorem Color.codec_restores : Color.codec.read.Restores Color.codec.write := by
  refine record_restores fun color => ⟨⟨some color.red, some color.green, some color.blue⟩, ?_, rfl⟩
  apply fills_printed Reader.byte_restores color.red rfl rfl
  apply fills_printed Reader.byte_restores color.green rfl rfl
  apply fills_printed Reader.byte_restores color.blue rfl rfl
  exact .nil

theorem Palette.codec_restores : Palette.codec.read.Restores Palette.codec.write := by
  refine record_restores fun palette => ⟨⟨some palette.primary, some palette.secondary⟩, ?_, rfl⟩
  apply fills_printed Color.codec_restores palette.primary rfl rfl
  apply fills_printed Color.codec_restores palette.secondary rfl rfl
  exact .nil

theorem Denomination.codec_restores : Denomination.codec.read.Restores Denomination.codec.write := by
  refine record_restores fun unit => ⟨⟨some unit.name, some unit.symbol, some unit.decimals⟩, ?_, rfl⟩
  apply fills_printed Reader.text_restores unit.name rfl rfl
  apply fills_printed Reader.text_restores unit.symbol rfl rfl
  apply fills_printed Reader.byte_restores unit.decimals rfl rfl
  exact .nil

theorem CurrencyId.codec_restores : CurrencyId.codec.read.Restores CurrencyId.codec.write :=
  Codec.wrapping_restores fun _ => rfl

theorem NetworkId.codec_restores : NetworkId.codec.read.Restores NetworkId.codec.write :=
  Codec.wrapping_restores fun _ => rfl

theorem Coin.codec_restores : Coin.codec.read.Restores Coin.codec.write := by
  refine record_restores fun coin => ⟨⟨some coin.id, some coin.code, some coin.name, some coin.kind⟩, ?_, rfl⟩
  apply fills_printed CurrencyId.codec_restores coin.id rfl rfl
  apply fills_printed Reader.text_restores coin.code rfl rfl
  apply fills_printed Reader.text_restores coin.name rfl rfl
  apply fills_printed Reader.text_restores coin.kind rfl rfl
  exact .nil

theorem PayIdAddress.codec_restores : PayIdAddress.codec.read.Restores PayIdAddress.codec.write := by
  refine record_restores fun address => ⟨⟨some address.paymentNetwork, some address.environment⟩, ?_, rfl⟩
  apply fills_printed Reader.text_restores address.paymentNetwork rfl rfl
  apply fills_printed Reader.text_restores address.environment rfl rfl
  exact .nil

/-- Every smaller type comes back from its own JSON text unchanged, whatever its texts and numbers are. -/
theorem models_comeBack :
    (∀ color : Color, Color.codec.ofText (Color.codec.toText color) = .ok color) ∧
    (∀ palette : Palette, Palette.codec.ofText (Palette.codec.toText palette) = .ok palette) ∧
    (∀ unit : Denomination, Denomination.codec.ofText (Denomination.codec.toText unit) = .ok unit) ∧
    (∀ coin : Coin, Coin.codec.ofText (Coin.codec.toText coin) = .ok coin) ∧
    (∀ address : PayIdAddress, PayIdAddress.codec.ofText (PayIdAddress.codec.toText address) = .ok address) ∧
    (∀ id : CurrencyId, CurrencyId.codec.ofText (CurrencyId.codec.toText id) = .ok id) ∧
    ∀ id : NetworkId, NetworkId.codec.ofText (NetworkId.codec.toText id) = .ok id :=
  ⟨Codec.ofText_toText Color.codec_restores, Codec.ofText_toText Palette.codec_restores,
    Codec.ofText_toText Denomination.codec_restores, Codec.ofText_toText Coin.codec_restores,
    Codec.ofText_toText PayIdAddress.codec_restores, Codec.ofText_toText CurrencyId.codec_restores,
    Codec.ofText_toText NetworkId.codec_restores⟩

end WalletCurrencies
