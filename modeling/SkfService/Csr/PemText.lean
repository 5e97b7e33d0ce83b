import SkfService.Csr.Encoding
import SkfService.Dispatch.IssueCertificate
import SkfService.Text.Armour

/-! The PEM text of a certificate request: the lines that are written, and the reader that joins
them. -/

set_option autoImplicit false

namespace SkfService

open Text

/-- The lines of a body of 64 columns, the last one as long as what is left for it. -/
structure Columns (chars : List Char) (lines : List PemLine) : Prop where
  whole : lines.flatMap PemLine.chars = chars
  feeds : ∀ line ∈ lines, line.ending = .lf
  bounded : ∀ line ∈ lines, line.chars.length ≤ 64
  full : ∀ line ∈ lines.dropLast, line.chars.length = 64

namespace Columns

variable {chars front cs : List Char} {lines : List PemLine}

theorem nil : Columns [] [] where
  whole := rfl
  feeds := by simp
  bounded := by simp
  full := by simp

theorem last (some : front ≠ []) (small : front.length ≤ 64) :
    Columns front [⟨front, .lf, some⟩] where
  whole := List.append_nil front
  feeds line member := by rw [List.mem_singleton.mp member]
  bounded line member := by rwa [List.mem_singleton.mp member]
  full := by simp

theorem cons (columns : Columns chars lines) (some : front ≠ []) (long : front.length = 64) :
    Columns (front ++ chars) (⟨front, .lf, some⟩ :: lines) where
  whole := by rw [List.flatMap_cons, columns.whole]
  feeds line member := by
    rcases List.mem_cons.mp member with rfl | later
    · rfl
    · exact columns.feeds line later
  bounded line member := by
    rcases List.mem_cons.mp member with rfl | later
    · exact Nat.le_of_eq long
    · exact columns.bounded line later
  full line member := by
    cases lines with
    | nil => simp at member
    | cons next rest =>
      rw [List.dropLast_cons_cons] at member
      rcases List.mem_cons.mp member with rfl | later
      · exact long
      · exact columns.full line later

/-- The writer's breaks, and the one it adds if the last line lacks it, end the lines. -/
theorem wrapped (small : front.length < 64) : ∃ lines, Columns (front ++ cs) lines ∧
    front ++ (CreatePKCS10.wrapColumns front.length cs ++ if (front.length + cs.length) % 64 =
      0 then [] else ['\n']) =
      lines.flatMap PemLine.text := by
  induction cs generalizing front with
  | nil =>
    rw [CreatePKCS10.wrapColumns, List.length_nil, Nat.add_zero, List.append_nil, List.nil_append]
    cases front with
    | nil => exact ⟨[], nil, rfl⟩
    | cons c front =>
      have open_ : ¬(c :: front).length % 64 = 0 := by
        rw [List.length_cons] at small ⊢
        omega
      rw [if_neg open_]
      exact ⟨_, last (List.cons_ne_nil c front) (Nat.le_of_lt small), (List.append_nil _).symm⟩
  | cons c rest ih =>
    rw [CreatePKCS10.wrapColumns]
    split
    -- The line is full with this character, and the next one starts empty.
    · next full =>
      have long : (front ++ [c]).length = 64 := by
        rw [List.length_append, List.length_singleton, full]
      have count : (front.length + (c :: rest).length) % 64 =
          (([] : List Char).length + rest.length) % 64 := by
        rw [List.length_cons, List.length_nil]
        omega
      have some : front ++ [c] ≠ [] := List.append_ne_nil_of_right_ne_nil _ (List.cons_ne_nil _ _)
      obtain ⟨lines, columns, written⟩ := @ih [] (by decide)
      refine ⟨⟨front ++ [c], .lf, some⟩ :: lines, ?_, ?_⟩
      · have started := columns.cons some long
        rwa [List.nil_append, List.append_assoc] at started
      · rw [List.flatMap_cons, ← written, count]
        simp only [PemLine.text, LineEnd.chars, List.append_assoc, List.cons_append,
          List.nil_append, List.length_nil]
    · next open_ =>
      have longer : (front ++ [c]).length = front.length + 1 := by
        rw [List.length_append, List.length_singleton]
      have count : front.length + (c :: rest).length = (front ++ [c]).length + rest.length := by
        rw [longer, List.length_cons]
        omega
      obtain ⟨lines, columns, written⟩ := @ih (front ++ [c]) (by omega)
      refine ⟨lines, ?_, ?_⟩
      · rwa [List.append_assoc] at columns
      · rw [← written, count, longer]
        simp only [List.append_assoc, List.cons_append, List.nil_append]

end Columns

theorem pemOf_lines (der : List UInt8) : ∃ lines, Columns (Base64.encodeChars der) lines ∧
    (CreatePKCS10.pemOf der).toList = "-----BEGIN CERTIFICATE REQUEST-----\n".toList ++
      (lines.flatMap PemLine.text ++ "-----END CERTIFICATE REQUEST-----".toList) := by
  have header : Pem.header "CERTIFICATE REQUEST" =
      "-----BEGIN CERTIFICATE REQUEST-----\n".toList := by decide
  have footer : Pem.footer "CERTIFICATE REQUEST" = "-----END CERTIFICATE REQUEST-----".toList := by
    decide
  have empty : ([] : List Char).length < 64 := by decide
  obtain ⟨lines, columns, written⟩ := @Columns.wrapped [] (Base64.encodeChars der) empty
  refine ⟨lines, columns, ?_⟩
  rw [List.nil_append, List.length_nil] at written
  rw [pemOf_eq, String.toList_ofList, header, footer, written, List.append_assoc]

/-- The reader takes the four markers and the line ends out of such a text, and finds the base64. -/
theorem csrDer_lines {der : List UInt8} {lines : List PemLine} {text : String}
    (csrBytes : List UInt8) (columns : Columns (Base64.encodeChars der) lines)
    (spelled : text.toList = "-----BEGIN CERTIFICATE REQUEST-----\n".toList ++
      (lines.flatMap PemLine.text ++ "-----END CERTIFICATE REQUEST-----".toList)) :
    IssueCertificate.csrDer text csrBytes = der := by
  have begins : "-----BEGIN CERTIFICATE REQUEST-----".toList =
      '-' :: "----BEGIN CERTIFICATE REQUEST-----".toList := rfl
  have ends : "-----END CERTIFICATE REQUEST-----".toList =
      '-' :: "----END CERTIFICATE REQUEST-----".toList := rfl
  have beginsNew : "-----BEGIN NEW CERTIFICATE REQUEST-----".toList =
      '-' :: "----BEGIN NEW CERTIFICATE REQUEST-----".toList := rfl
  have endsNew : "-----END NEW CERTIFICATE REQUEST-----".toList =
      '-' :: "----END NEW CERTIFICATE REQUEST-----".toList := rfl
  have header : "-----BEGIN CERTIFICATE REQUEST-----\n".toList =
      "-----BEGIN CERTIFICATE REQUEST-----".toList ++ LineEnd.lf.chars := rfl
  have marked : contains "-----BEGIN" text = true := by
    have short : "-----BEGIN".toList <+: "-----BEGIN CERTIFICATE REQUEST-----\n".toList :=
      ⟨" CERTIFICATE REQUEST-----\n".toList, rfl⟩
    apply contains_front
    rw [spelled]
    exact short.trans (List.prefix_append _ _)
  have quiet : ∀ rest ∈ ('-' :: "----END CERTIFICATE REQUEST-----".toList).tails,
      ('-' :: "----BEGIN CERTIFICATE REQUEST-----".toList).isPrefixOf rest = false := by decide
  have plain : '-' ∉ LineEnd.lf.chars ++ lines.flatMap PemLine.text := body_plain columns.whole
  have cut := replaceChars_between quiet (by simp) plain List.not_mem_nil
  rw [List.append_nil, List.append_nil, ← begins, ← ends] at cut
  have decoded : Base64.decode (.ofList (Base64.encodeChars der)) = some der :=
    Base64.decode_encode der
  rw [IssueCertificate.csrDer, if_pos marked]
  dsimp only
  -- The other two markers are not in what is left, and neither is a hyphen.
  rw [replace_toList, replace_toList, replace_toList, replace_toList, String.toList_empty, spelled,
    header, List.append_assoc, ← List.append_assoc LineEnd.lf.chars, cut, beginsNew,
    replaceChars_plain plain, endsNew, replaceChars_plain plain, List.filter_append,
    filter_breaks LineEnd.lf.breaks, filter_lines columns.whole, List.nil_append, decoded,
    Option.getD_some]

/-- What is written for a request that is not empty is lines of 64 characters, the last one no
longer and none of them empty, each with one line feed behind it, and reading it gives the request
back. -/
theorem csr_pem_agrees {der : List UInt8} (some : der ≠ []) :
    (∃ lines : List PemLine, lines ≠ [] ∧
      (∀ line ∈ lines, line.ending = .lf ∧ '\n' ∉ line.chars ∧ line.chars.length ≤ 64) ∧
      (∀ line ∈ lines.dropLast, line.chars.length = 64) ∧
      (CreatePKCS10.pemOf der).toList = "-----BEGIN CERTIFICATE REQUEST-----\n".toList ++
        (lines.flatMap PemLine.text ++ "-----END CERTIFICATE REQUEST-----".toList)) ∧
    ∀ csrBytes, IssueCertificate.csrDer (CreatePKCS10.pemOf der) csrBytes = der := by
  obtain ⟨lines, columns, spelled⟩ := pemOf_lines der
  refine ⟨⟨lines, ?_, ?_, columns.full, spelled⟩, fun csrBytes =>
    csrDer_lines csrBytes columns spelled⟩
  · rintro rfl
    have count := Base64.length_encodeChars der
    rw [← columns.whole, List.flatMap_nil, List.length_nil] at count
    have positive := List.length_pos_iff.mpr some
    omega
  · intro line member
    refine ⟨columns.feeds line member, ?_, columns.bounded line member⟩
    intro inside
    apply Base64.newline_not_mem_encodeChars der
    rw [← columns.whole]
    exact List.mem_flatMap.mpr ⟨line, member, inside⟩

/-- 60 bytes are 80 characters: a full line and a rest. -/
theorem csr_pem_agrees_broken :
    (∃ lines : List PemLine, 2 ≤ lines.length ∧ (∀ line ∈ lines.dropLast, line.chars.length = 64) ∧
      (CreatePKCS10.pemOf (List.replicate 60 0x30)).toList =
        "-----BEGIN CERTIFICATE REQUEST-----\n".toList ++
        (lines.flatMap PemLine.text ++ "-----END CERTIFICATE REQUEST-----".toList)) ∧
    IssueCertificate.csrDer (CreatePKCS10.pemOf (List.replicate 60 0x30)) [] =
      List.replicate 60 0x30 := by
  obtain ⟨⟨lines, nonempty, bounded, full, spelled⟩, reads⟩ :=
    @csr_pem_agrees (List.replicate 60 0x30) (List.cons_ne_nil _ _)
  refine ⟨⟨lines, ?_, full, spelled⟩, reads []⟩
  have long : 80 ≤ (lines.flatMap PemLine.text).length := by
    obtain ⟨written, columns, same⟩ := pemOf_lines (List.replicate 60 0x30)
    have body := List.append_cancel_right (List.append_cancel_left (spelled.symm.trans same))
    have kept := congrArg List.length (filter_lines columns.whole)
    rw [Base64.length_encodeChars, List.length_replicate] at kept
    rw [body]
    exact kept.symm.le.trans (List.length_filter_le _ _)
  rcases lines with - | ⟨line, - | ⟨next, others⟩⟩
  · exact absurd rfl nonempty
  -- One line has no room for all 80 characters.
  · obtain ⟨feeds, -, short⟩ := bounded line (List.mem_singleton_self _)
    rw [List.flatMap_singleton, PemLine.text, feeds, List.length_append] at long
    exact absurd (long.trans (Nat.add_le_add_right short 1)) (by decide)
  · simp

end SkfService
