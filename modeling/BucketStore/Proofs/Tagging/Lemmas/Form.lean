import BucketStore.Proofs.Tagging.Form

/-!
# Reading back what a form says
-/

namespace BucketStore

namespace Form

/-! ## Bytes -/

theorem of_isPlain {b : UInt8} (h : isPlain b = true) :
    Char.ofNat b.toNat ≠ '+' ∧ Char.ofNat b.toNat ≠ '%' ∧
      String.utf8EncodeChar (Char.ofNat b.toNat) = [b] := by
  have hall : ∀ n : Fin 256, isPlain (.ofFin n) = true →
      Char.ofNat n ≠ '+' ∧ Char.ofNat n ≠ '%' ∧
        String.utf8EncodeChar (Char.ofNat n) = [.ofFin n] := by decide +kernel
  exact hall b.toFin h

theorem hexValue?_hexDigit {n : Nat} (h : n < 16) : hexValue? (hexDigit n) = some n := by
  revert n
  decide

theorem not_mem_encodeByte (b : UInt8) : '&' ∉ encodeByte b ∧ '=' ∉ encodeByte b := by
  have hall : ∀ n : Fin 256, '&' ∉ encodeByte (.ofFin n) ∧ '=' ∉ encodeByte (.ofFin n) := by
    decide +kernel
  exact hall b.toFin

/-- A byte is read back from the front of a text. -/
theorem bytes?_encodeByte (b : UInt8) (cs : List Char) :
    bytes? (encodeByte b ++ cs) = (bytes? cs).map fun bs => b :: bs := by
  unfold encodeByte
  split
  · rename_i hplain
    obtain ⟨hplus, hpercent, hbyte⟩ := of_isPlain hplain
    rw [List.singleton_append,
      bytes?.eq_5 _ _ hplus (fun _ _ _ h _ => hpercent h) (fun h => hpercent h), hbyte]
    rfl
  · split
    · rename_i hspace
      subst hspace
      rfl
    · have hb := b.toNat_lt
      have hdigits : 16 * (b.toNat / 16) + b.toNat % 16 = b.toNat := by omega
      simp only [List.cons_append, List.nil_append, bytes?]
      rw [hexValue?_hexDigit (by omega), hexValue?_hexDigit (by omega)]
      simp only [Option.bind_eq_bind, Option.bind_some, hdigits, UInt8.ofNat_toNat]
      cases bytes? cs <;> rfl

theorem bytes?_flatMap (bs : List UInt8) : bytes? (bs.flatMap encodeByte) = some bs := by
  induction bs with
  | nil => rfl
  | cons b bs ih =>
    rw [List.flatMap_cons, bytes?_encodeByte, ih]
    rfl

/-! ## Texts -/

theorem toList_loop (bytes : ByteArray) (i : Nat) (before : List UInt8) :
    ByteArray.toList.loop bytes i before = before.reverse ++ bytes.data.toList.drop i := by
  fun_induction ByteArray.toList.loop bytes i before with
  | case1 i before hi ih =>
    have hlength : i < bytes.data.toList.length := by simpa using hi
    have hget : bytes.get! i = bytes.data.toList[i] := by
      simp [ByteArray.get!, hi]
    rw [ih, List.drop_eq_getElem_cons hlength, hget]
    simp
  | case2 i before hi =>
    rw [List.drop_eq_nil_of_le (by simpa using hi), List.append_nil]

theorem toList_eq_data (bytes : ByteArray) : bytes.toList = bytes.data.toList := by
  rw [ByteArray.toList, toList_loop]
  rfl

theorem text?_encode (s : String) : text? (encode s) = some s := by
  rw [text?, encode, bytes?_flatMap, toList_eq_data]
  change String.fromUTF8? s.toByteArray = some s
  rw [String.fromUTF8?, dif_pos s.isValidUTF8]
  rfl

theorem not_mem_encode (s : String) : '&' ∉ encode s ∧ '=' ∉ encode s := by
  constructor
  · intro h
    obtain ⟨b, -, hb⟩ := List.mem_flatMap.mp h
    exact (not_mem_encodeByte b).1 hb
  · intro h
    obtain ⟨b, -, hb⟩ := List.mem_flatMap.mp h
    exact (not_mem_encodeByte b).2 hb

/-! ## Parts -/

theorem pair?_encodePair (p : String × String) :
    pair? (encodePair (p.1, .text p.2)) = some p := by
  have hname : ∀ c ∈ encode p.1, (c != '=') = true := by
    intro c hc
    rw [bne_iff_ne]
    rintro rfl
    exact (not_mem_encode p.1).2 hc
  rw [pair?, encodePair, List.dropWhile_append_of_pos hname, List.takeWhile_append_of_pos hname]
  simp [text?_encode, Value.asText]

theorem not_mem_encodePair (p : String × String) : '&' ∉ encodePair (p.1, .text p.2) := by
  simp [encodePair, Value.asText, (not_mem_encode p.1).1, (not_mem_encode p.2).1]

/-- A form that is not empty is read back pair by pair. -/
theorem pairs?_intercalate {pairs : List (String × String)} (hpairs : pairs ≠ []) :
    pairs? (String.ofList
      (List.intercalate ['&'] (pairs.map fun p => encodePair (p.1, .text p.2)))) = some pairs := by
  rw [pairs?, String.toList_ofList, List.splitOn_intercalate]
  · have hread : (pair? ∘ fun p : String × String => encodePair (p.1, .text p.2)) = pure :=
      funext pair?_encodePair
    rw [List.mapM_map, hread, List.mapM_pure, List.map_id']
    rfl
  · intro part hpart
    obtain ⟨p, -, rfl⟩ := List.mem_map.mp hpart
    exact not_mem_encodePair p
  · simpa using hpairs

end Form

end BucketStore
