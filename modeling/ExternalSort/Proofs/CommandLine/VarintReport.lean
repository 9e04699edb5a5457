import Mathlib.Data.List.Forall2
import ExternalSort.CommandLine.Report
import ExternalSort.Proofs.RecordBytes
import ExternalSort.Proofs.Text.Line
import ExternalSort.Proofs.Varint.Sequence

/-!
# The report on encoded integers

A line of the report has a column for the value and one for its bytes in binary. Both are
wide enough for every value: it has at most twenty characters, and nine groups of eight
digits with spaces between them take eighty (`Varint.length_binary_encode_le`). So all lines
are of one length, and what a line shows can be read back from its columns
(`showsEncoding_varintText`).

`varint_faithful`: the command prints one such line for each value, and it never looks at
the settings.
-/

namespace ExternalSort

namespace Varint

theorem encode_ne_nil (value : Int64) : encode value ≠ [] := by
  rw [← List.length_pos_iff, length_encode]
  exact encodedLength_pos value

theorem decode_encode (value : Int64) :
    decode (encode value) = .ok (value, (encode value).length) := by
  have h := decode_encode_append value []
  rwa [List.append_nil, ← length_encode] at h

theorem length_binary_encode_le (value : Int64) : (Text.binary (encode value)).length ≤ 80 := by
  have hbinary := Text.length_binary (encode_ne_nil value)
  have hlength := encodedLength_le value
  rw [length_encode] at hbinary
  omega

end Varint

namespace CommandLine

/-! ## 1. Lines -/

/-- What a line says about the length of an encoding, behind its columns. -/
def lengthsText (length : Nat) : String := s!"  len: {length}  expected len: {length}"

/-- The line for an encoded integer, without its end. -/
def varintText (value : Int64) : String :=
  Text.alignRight 20 (toString value.toInt) ++ ": " ++
    Text.alignRight 80 (Text.binary (Varint.encode value)) ++
    lengthsText (Varint.encode value).length

theorem varintLine_eq (value : Int64) : varintLine value = varintText value ++ "\n" := by
  simp only [varintLine, varintText, lengthsText, Varint.length_encode, toString,
    String.append_assoc]
  rfl

/-- An encoding has no more than nine bytes, so its length is a single digit. -/
theorem lengthsText_of_le :
    ∀ length ≤ 9, (lengthsText length).length = 25 ∧ '\n' ∉ (lengthsText length).toList := by
  decide

/-- A line shows a value and its encoding, and both can be read back. -/
structure ShowsEncoding (value : Int64) (line : String) : Prop where
  length_eq : line.length = 127
  newline_notMem : '\n' ∉ line.toList
  value_eq : Text.column 0 20 line = (toString value.toInt).toList
  colon_eq : (line.toList.drop 20).take 2 = [':', ' ']
  /-- Both lengths at the end are the number of bytes that were read. -/
  bytes_eq : ∃ bytes, Text.readBinary? (Text.column 22 80 line) = some bytes ∧
    Varint.decode bytes = .ok (value, bytes.length) ∧
    line.toList.drop 102 = (lengthsText bytes.length).toList

theorem newline_notMem_varintText (value : Int64) : '\n' ∉ (varintText value).toList := by
  have hlength : (Varint.encode value).length ≤ 9 := by
    rw [Varint.length_encode]
    exact Varint.encodedLength_le value
  have hvalue : '\n' ∉ (toString value.toInt).toList :=
    Text.notMem_toString (by decide) (by decide) value.toInt
  have hbinary : '\n' ∉ (Text.binary (Varint.encode value)).toList := by
    intro hmem
    exact absurd (Text.mem_binary hmem) (by decide)
  refine Text.notMem_append (Text.notMem_append (Text.notMem_append ?_ (by decide)) ?_) ?_
  · exact Text.notMem_alignRight (by decide) hvalue
  · exact Text.notMem_alignRight (by decide) hbinary
  · exact (lengthsText_of_le _ hlength).2

theorem showsEncoding_varintText (value : Int64) : ShowsEncoding value (varintText value) := by
  let bytes := Varint.encode value
  let left := Text.alignRight 20 (toString value.toInt)
  let right := Text.alignRight 80 (Text.binary bytes)
  have hvalue : (toString value.toInt).length ≤ 20 := Text.length_toString_toInt_le value
  have hbinary : (Text.binary bytes).length ≤ 80 := Varint.length_binary_encode_le value
  have hbytes : bytes ≠ [] := Varint.encode_ne_nil value
  have hnine : bytes.length ≤ 9 := by
    rw [Varint.length_encode]
    exact Varint.encodedLength_le value
  obtain ⟨hlengths, -⟩ := lengthsText_of_le bytes.length hnine
  have hleft : left.length = 20 := Text.length_alignRight hvalue
  have hfront : (left ++ ": ").length = 22 := by
    rw [String.length_append, hleft]
    rfl
  have hcolumns : (left ++ ": " ++ right).length = 102 := by
    rw [String.length_append, hfront, Text.length_alignRight hbinary]
  have htext : varintText value = left ++ ": " ++ right ++ lengthsText bytes.length := rfl
  constructor
  case newline_notMem => exact newline_notMem_varintText value
  case length_eq => rw [htext, String.length_append, hcolumns, hlengths]
  case value_eq =>
    have hsplit : varintText value = "" ++ left ++ (": " ++ right ++ lengthsText bytes.length) := by
      simp only [htext, String.empty_append, String.append_assoc]
    rw [hsplit]
    exact Text.column_alignRight "" _ hvalue (Text.head?_toString_ne value.toInt)
  case colon_eq =>
    rw [htext, String.append_assoc, String.append_assoc, String.toList_append,
      List.drop_left' (String.length_toList.trans hleft), String.toList_append]
    rfl
  case bytes_eq =>
    have hcolumn := Text.column_alignRight (left ++ ": ") (lengthsText bytes.length) hbinary
      (Text.head?_binary_ne bytes)
    rw [hfront] at hcolumn
    refine ⟨bytes, ?_, Varint.decode_encode value, ?_⟩
    · rw [htext, hcolumn, Text.readBinary?_binary hbytes]
    · rw [htext, String.toList_append, List.drop_left' (String.length_toList.trans hcolumns)]

/-! ## 2. Reports -/

/-- Every line is printed, whatever the flags are. -/
theorem run_varint (flags : Flags) (values : List Int64) :
    Invocation.run ⟨flags, .varint values⟩
      = (.ok (), ⟨String.join ((values.map varintText).map (· ++ "\n")), #[]⟩) := by
  have hlines : (values.map varintText).map (· ++ "\n") = values.map varintLine := by
    rw [List.map_map]
    exact List.map_congr_left fun value _ => (varintLine_eq value).symm
  rw [Invocation.run, Command.run, after_forM_print, hlines, String.empty_append]

/-- There is a line for each value, in order, and each line is whole: the value, its bytes and
their number can be read back from it. The flags do not matter, valid or not. -/
theorem varint_faithful (values : List Int64) :
    ∃ lines, List.Forall₂ ShowsEncoding values lines ∧
      (∀ flags, Invocation.run ⟨flags, .varint values⟩
        = (.ok (), ⟨String.join (lines.map (· ++ "\n")), #[]⟩)) ∧
      ∀ arguments flags, Request.ofArguments arguments = .run ⟨flags, .varint values⟩ →
        run arguments = ⟨0, String.join (lines.map (· ++ "\n")), ""⟩ := by
  refine ⟨values.map varintText, ?_, fun flags => run_varint flags values, ?_⟩
  · rw [List.forall₂_map_right_iff, List.forall₂_same]
    exact fun value _ => showsEncoding_varintText value
  · intro arguments flags harguments
    exact run_of_ok harguments (run_varint flags values)

/-- A factor of zero has no model, but integers are encoded. -/
theorem varint_faithful_factor_zero :
    (Attempt.after (Flags.model { sortFactor := some 0 }) #[]).1 = .error (.settings .zeroFactor) ∧
      ∃ lines, List.Forall₂ ShowsEncoding [7, -9223372036854775808] lines ∧
        run ["--factor", "0", "varint", "7", "-9223372036854775808"]
          = ⟨0, String.join (lines.map (· ++ "\n")), ""⟩ := by
  obtain ⟨lines, hlines, -, hrun⟩ := varint_faithful [7, -9223372036854775808]
  exact ⟨rfl, lines, hlines, hrun _ { sortFactor := some 0 } rfl⟩

end CommandLine

end ExternalSort
