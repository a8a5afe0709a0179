import Slipway.Text.Utf8
set_option autoImplicit false

namespace Slipway

theorem Lead.ofByte_two (b : UInt8) (h : 0xC2 ≤ b.toNat) (h' : b.toNat < 0xE0) :
    Lead.ofByte b = .underway ⟨[b], b.toNat - 0xC0, 1, 0x80, 0xBF⟩ := by
  have h1 : ¬ b.toNat < 0x80 := by omega
  have h2 : ¬ b.toNat < 0xC2 := by omega
  simp only [Lead.ofByte, h1, h2, h', if_false, if_true]

theorem Lead.ofByte_three (b : UInt8) (h : 0xE0 ≤ b.toNat) (h' : b.toNat < 0xF0) :
    Lead.ofByte b = .underway ⟨[b], b.toNat - 0xE0, 2, if b.toNat = 0xE0 then 0xA0 else 0x80,
      if b.toNat = 0xED then 0x9F else 0xBF⟩ := by
  have h1 : ¬ b.toNat < 0x80 := by omega
  have h2 : ¬ b.toNat < 0xC2 := by omega
  have h3 : ¬ b.toNat < 0xE0 := by omega
  simp only [Lead.ofByte, h1, h2, h3, h', if_false, if_true]

theorem Lead.ofByte_four (b : UInt8) (h : 0xF0 ≤ b.toNat) (h' : b.toNat < 0xF5) :
    Lead.ofByte b = .underway ⟨[b], b.toNat - 0xF0, 3, if b.toNat = 0xF0 then 0x90 else 0x80,
      if b.toNat = 0xF4 then 0x8F else 0xBF⟩ := by
  have h1 : ¬ b.toNat < 0x80 := by omega
  have h2 : ¬ b.toNat < 0xC2 := by omega
  have h3 : ¬ b.toNat < 0xE0 := by omega
  have h4 : ¬ b.toNat < 0xF0 := by omega
  simp only [Lead.ofByte, h1, h2, h3, h4, h', if_false, if_true]

theorem piecesFrom_more (u : Underway) (b : UInt8) (bs : Bytes) (hl : u.low ≤ b.toNat) (hh : b.toNat ≤ u.high)
    (hm : 1 < u.missing) :
    piecesFrom (some u) (b :: bs) =
      piecesFrom (some ⟨b :: u.seen, u.bits * 64 + (b.toNat - 0x80), u.missing - 1, 0x80, 0xBF⟩) bs := by
  have h : ¬ u.missing ≤ 1 := by omega
  simp only [piecesFrom, hl, hh, h, and_self, if_true, if_false]

theorem piecesFrom_last (u : Underway) (b : UInt8) (bs : Bytes) (hl : u.low ≤ b.toNat) (hh : b.toNat ≤ u.high)
    (hm : u.missing ≤ 1) :
    piecesFrom (some u) (b :: bs) = .char (Char.ofNat (u.bits * 64 + (b.toNat - 0x80))) :: piecesFrom none bs := by
  simp only [piecesFrom, hl, hh, hm, and_self, if_true]

theorem piecesFrom_lead (b : UInt8) (bs : Bytes) (u : Underway) (h : Lead.ofByte b = .underway u) :
    piecesFrom none (b :: bs) = piecesFrom (some u) bs := by
  simp only [piecesFrom, h]

theorem piecesFrom_utf8EncodeChar (c : Char) (rest : Bytes) :
    piecesFrom none (String.utf8EncodeChar c ++ rest) = .char c :: piecesFrom none rest := by
  have hv : c.val.toNat < 55296 ∨ 57343 < c.val.toNat ∧ c.val.toNat < 1114112 := c.valid
  have hc : Char.ofNat c.val.toNat = c := Char.ofNat_toNat c
  unfold String.utf8EncodeChar
  generalize c.val.toNat = v at hv hc
  dsimp only
  by_cases h1 : v ≤ 127
  · have hb : v % 256 = v := by omega
    have hl : v < 128 := by omega
    simp [h1, piecesFrom, Lead.ofByte, hb, hl, hc]
  by_cases h2 : v ≤ 2047
  · have ha : (v / 64 % 32 + 192) % 256 = v / 64 + 192 := by omega
    have hb : (v % 64 + 128) % 256 = v % 64 + 128 := by omega
    have e1 : ¬ (v / 64 + 192 < 128) := by omega
    have e2 : ¬ (v / 64 + 192 < 194) := by omega
    have e3 : v / 64 + 192 < 224 := by omega
    have e4 : v % 64 ≤ 63 := by omega
    have e5 : v / 64 * 64 + v % 64 = v := by omega
    simp [h1, h2, piecesFrom, Lead.ofByte, ha, hb, e1, e2, e3, e4, e5, hc]
  by_cases h3 : v ≤ 65535
  · have ha : (UInt8.ofNat (v / 4096 % 16 + 224)).toNat = v / 4096 + 224 := by simp; omega
    have hb : (UInt8.ofNat (v / 64 % 64 + 128)).toNat = v / 64 % 64 + 128 := by simp; omega
    have hd : (UInt8.ofNat (v % 64 + 128)).toNat = v % 64 + 128 := by simp; omega
    simp only [h1, h2, h3, if_false, if_true, List.cons_append, List.nil_append]
    rw [piecesFrom_lead _ _ _ (Lead.ofByte_three _ (by omega) (by omega)), piecesFrom_more, piecesFrom_last]
    · simp only [ha, hb, hd]
      have e : ((v / 4096 + 224 - 224) * 64 + (v / 64 % 64 + 128 - 128)) * 64 + (v % 64 + 128 - 128) = v := by omega
      rw [e, hc]
    · simp only [hd]; omega
    · simp only [hd]; omega
    · simp
    · simp only [ha, hb]; split <;> omega
    · simp only [ha, hb]; split <;> omega
    · simp
  · have ha : (UInt8.ofNat (v / 262144 % 8 + 240)).toNat = v / 262144 + 240 := by simp; omega
    have hb : (UInt8.ofNat (v / 4096 % 64 + 128)).toNat = v / 4096 % 64 + 128 := by simp; omega
    have hd : (UInt8.ofNat (v / 64 % 64 + 128)).toNat = v / 64 % 64 + 128 := by simp; omega
    have he : (UInt8.ofNat (v % 64 + 128)).toNat = v % 64 + 128 := by simp; omega
    simp only [h1, h2, h3, if_false, List.cons_append, List.nil_append]
    rw [piecesFrom_lead _ _ _ (Lead.ofByte_four _ (by omega) (by omega)), piecesFrom_more, piecesFrom_more,
      piecesFrom_last]
    · simp only [ha, hb, hd, he]
      have e : (((v / 262144 + 240 - 240) * 64 + (v / 4096 % 64 + 128 - 128)) * 64 + (v / 64 % 64 + 128 - 128)) * 64 +
          (v % 64 + 128 - 128) = v := by omega
      rw [e, hc]
    · simp only [he]; omega
    · simp only [he]; omega
    · simp
    · simp only [hd]; omega
    · simp only [hd]; omega
    · simp
    · simp only [ha, hb]; split <;> omega
    · simp only [ha, hb]; split <;> omega
    · simp

@[simp] theorem pieces_utf8_append (t : Text) (rest : Bytes) :
    pieces (utf8 t ++ rest) = t.map .char ++ pieces rest := by
  induction t with
  | nil => rfl
  | cons c t ih =>
    simp only [pieces, utf8_cons, List.append_assoc, List.map_cons, List.cons_append] at ih ⊢
    rw [piecesFrom_utf8EncodeChar, ih]

@[simp] theorem pieces_utf8 (t : Text) : pieces (utf8 t) = t.map .char := by
  simpa [pieces, piecesFrom] using pieces_utf8_append t []

@[simp] theorem lossy_utf8 (t : Text) : lossy (utf8 t) = t := by
  simp [lossy, Piece.shown, Function.comp_def]

@[simp] theorem decode?_utf8 (t : Text) : decode? (utf8 t) = some t := by
  simp only [decode?, pieces_utf8]
  induction t with
  | nil => rfl
  | cons c t ih => simp [ih, Piece.char?]

theorem utf8_injective {s t : Text} (h : utf8 s = utf8 t) : s = t := by
  rw [← lossy_utf8 s, h, lossy_utf8]

theorem Char.toNat_ofNat_of_valid (n : Nat) (h : n.isValidChar) : (Char.ofNat n).toNat = n := by
  rw [Char.ofNat, dif_pos h]
  rfl

theorem piecesFrom_some_char {u : Underway} {bs : Bytes} {c : Char} {ps : List Piece}
    (h : piecesFrom (some u) bs = .char c :: ps) :
    ∃ b rest, bs = b :: rest ∧ u.low ≤ b.toNat ∧ b.toNat ≤ u.high := by
  cases bs with
  | nil => simp [piecesFrom] at h
  | cons b rest =>
    by_cases hb : u.low ≤ b.toNat ∧ b.toNat ≤ u.high
    · exact ⟨b, rest, rfl, hb.1, hb.2⟩
    · simp [piecesFrom, hb] at h

theorem piecesFrom_last_char {u : Underway} {bs : Bytes} {c : Char} {ps : List Piece} (hm : u.missing ≤ 1)
    (h : piecesFrom (some u) bs = .char c :: ps) :
    ∃ b rest, bs = b :: rest ∧ (u.low ≤ b.toNat ∧ b.toNat ≤ u.high) ∧
      Char.ofNat (u.bits * 64 + (b.toNat - 0x80)) = c ∧ piecesFrom none rest = ps := by
  obtain ⟨b, rest, rfl, hl, hh⟩ := piecesFrom_some_char h
  rw [piecesFrom_last u b rest hl hh hm] at h
  simp only [List.cons.injEq, Piece.char.injEq] at h
  exact ⟨b, rest, rfl, ⟨hl, hh⟩, h.1, h.2⟩

theorem piecesFrom_more_char {u : Underway} {bs : Bytes} {c : Char} {ps : List Piece} (hm : 1 < u.missing)
    (h : piecesFrom (some u) bs = .char c :: ps) :
    ∃ b rest, bs = b :: rest ∧ (u.low ≤ b.toNat ∧ b.toNat ≤ u.high) ∧
      piecesFrom (some ⟨b :: u.seen, u.bits * 64 + (b.toNat - 0x80), u.missing - 1, 0x80, 0xBF⟩) rest =
        .char c :: ps := by
  obtain ⟨b, rest, rfl, hl, hh⟩ := piecesFrom_some_char h
  rw [piecesFrom_more u b rest hl hh hm] at h
  exact ⟨b, rest, rfl, ⟨hl, hh⟩, h⟩

theorem utf8EncodeChar_ofNat {n : Nat} (h : n.isValidChar) :
    String.utf8EncodeChar (Char.ofNat n) =
      if n ≤ 0x7f then [UInt8.ofNat n]
      else if n ≤ 0x7ff then [UInt8.ofNat (n / 64 % 32 + 0xC0), UInt8.ofNat (n % 64 + 0x80)]
      else if n ≤ 0xffff then
        [UInt8.ofNat (n / 4096 % 16 + 0xE0), UInt8.ofNat (n / 64 % 64 + 0x80), UInt8.ofNat (n % 64 + 0x80)]
      else
        [UInt8.ofNat (n / 262144 % 8 + 0xF0), UInt8.ofNat (n / 4096 % 64 + 0x80), UInt8.ofNat (n / 64 % 64 + 0x80),
          UInt8.ofNat (n % 64 + 0x80)] := by
  have hn : (Char.ofNat n).val.toNat = n := Char.toNat_ofNat_of_valid n h
  unfold String.utf8EncodeChar
  rw [hn]

theorem ofNat_eq_of_toNat {n : Nat} {b : UInt8} (h : n = b.toNat) : UInt8.ofNat n = b := by
  rw [h, UInt8.ofNat_toNat]

theorem utf8EncodeChar_one (b : UInt8) (h : b.toNat < 0x80) :
    String.utf8EncodeChar (Char.ofNat b.toNat) = [b] := by
  rw [utf8EncodeChar_ofNat (.inl (by omega)), if_pos (by omega), UInt8.ofNat_toNat]

theorem utf8EncodeChar_two (b x : UInt8) (h : 0xC2 ≤ b.toNat) (h' : b.toNat < 0xE0) (hx : 0x80 ≤ x.toNat)
    (hx' : x.toNat ≤ 0xBF) :
    String.utf8EncodeChar (Char.ofNat ((b.toNat - 0xC0) * 64 + (x.toNat - 0x80))) = [b, x] := by
  generalize hv : (b.toNat - 0xC0) * 64 + (x.toNat - 0x80) = v
  rw [utf8EncodeChar_ofNat (.inl (by omega)), if_neg (by omega), if_pos (by omega),
    ofNat_eq_of_toNat (b := b) (by omega), ofNat_eq_of_toNat (b := x) (by omega)]

theorem utf8EncodeChar_three (b x y : UInt8) (h : 0xE0 ≤ b.toNat) (h' : b.toNat < 0xF0)
    (hx : (if b.toNat = 0xE0 then 0xA0 else 0x80) ≤ x.toNat) (hx' : x.toNat ≤ if b.toNat = 0xED then 0x9F else 0xBF)
    (hy : 0x80 ≤ y.toNat) (hy' : y.toNat ≤ 0xBF) :
    String.utf8EncodeChar (Char.ofNat (((b.toNat - 0xE0) * 64 + (x.toNat - 0x80)) * 64 + (y.toNat - 0x80))) =
      [b, x, y] := by
  generalize hv : ((b.toNat - 0xE0) * 64 + (x.toNat - 0x80)) * 64 + (y.toNat - 0x80) = v
  have hvalid : v < 0xD800 ∨ 0xDFFF < v ∧ v < 0x110000 := by split at hx <;> split at hx' <;> omega
  have hlong : 0x7ff < v := by split at hx <;> split at hx' <;> omega
  have hx1 : 0x80 ≤ x.toNat := by split at hx <;> omega
  have hx2 : x.toNat ≤ 0xBF := by split at hx' <;> omega
  rw [utf8EncodeChar_ofNat hvalid, if_neg (by omega), if_neg (by omega), if_pos (by omega),
    ofNat_eq_of_toNat (b := b) (by omega), ofNat_eq_of_toNat (b := x) (by omega),
    ofNat_eq_of_toNat (b := y) (by omega)]

theorem utf8EncodeChar_four (b x y z : UInt8) (h : 0xF0 ≤ b.toNat) (h' : b.toNat < 0xF5)
    (hx : (if b.toNat = 0xF0 then 0x90 else 0x80) ≤ x.toNat) (hx' : x.toNat ≤ if b.toNat = 0xF4 then 0x8F else 0xBF)
    (hy : 0x80 ≤ y.toNat) (hy' : y.toNat ≤ 0xBF) (hz : 0x80 ≤ z.toNat) (hz' : z.toNat ≤ 0xBF) :
    String.utf8EncodeChar (Char.ofNat
        ((((b.toNat - 0xF0) * 64 + (x.toNat - 0x80)) * 64 + (y.toNat - 0x80)) * 64 + (z.toNat - 0x80))) =
      [b, x, y, z] := by
  generalize hv : (((b.toNat - 0xF0) * 64 + (x.toNat - 0x80)) * 64 + (y.toNat - 0x80)) * 64 + (z.toNat - 0x80) = v
  have hx1 : 0x80 ≤ x.toNat := by split at hx <;> omega
  have hx2 : x.toNat ≤ 0xBF := by split at hx' <;> omega
  have hlong : 0xffff < v := by split at hx <;> omega
  have hvalid : v < 0x110000 := by split at hx' <;> omega
  rw [utf8EncodeChar_ofNat (.inr ⟨by omega, hvalid⟩), if_neg (by omega), if_neg (by omega), if_neg (by omega),
    ofNat_eq_of_toNat (b := b) (by omega), ofNat_eq_of_toNat (b := x) (by omega),
    ofNat_eq_of_toNat (b := y) (by omega), ofNat_eq_of_toNat (b := z) (by omega)]

theorem piecesFrom_char {bs : Bytes} {c : Char} {ps : List Piece} (h : piecesFrom none bs = .char c :: ps) :
    ∃ rest, bs = String.utf8EncodeChar c ++ rest ∧ piecesFrom none rest = ps := by
  cases bs with
  | nil => simp [piecesFrom] at h
  | cons b bs =>
    by_cases h1 : b.toNat < 0x80
    · simp only [piecesFrom, Lead.ofByte, h1, if_true, List.cons.injEq, Piece.char.injEq] at h
      obtain ⟨rfl, hrest⟩ := h
      exact ⟨bs, by rw [utf8EncodeChar_one b h1, List.singleton_append], hrest⟩
    by_cases h2 : b.toNat < 0xC2
    · simp [piecesFrom, Lead.ofByte, h1, h2] at h
    by_cases h3 : b.toNat < 0xE0
    · rw [piecesFrom_lead b bs _ (Lead.ofByte_two b (by omega) h3)] at h
      obtain ⟨x, rest, rfl, hx, hc, hrest⟩ := piecesFrom_last_char (by simp) h
      refine ⟨rest, ?_, hrest⟩
      rw [← hc, utf8EncodeChar_two b x (by omega) h3 hx.1 hx.2]
      rfl
    by_cases h4 : b.toNat < 0xF0
    · rw [piecesFrom_lead b bs _ (Lead.ofByte_three b (by omega) h4)] at h
      obtain ⟨x, rest, rfl, hx, h⟩ := piecesFrom_more_char (by simp) h
      obtain ⟨y, rest, rfl, hy, hc, hrest⟩ := piecesFrom_last_char (by simp) h
      refine ⟨rest, ?_, hrest⟩
      rw [← hc, utf8EncodeChar_three b x y (by omega) h4 hx.1 hx.2 hy.1 hy.2]
      rfl
    by_cases h5 : b.toNat < 0xF5
    · rw [piecesFrom_lead b bs _ (Lead.ofByte_four b (by omega) h5)] at h
      obtain ⟨x, rest, rfl, hx, h⟩ := piecesFrom_more_char (by simp) h
      obtain ⟨y, rest, rfl, hy, h⟩ := piecesFrom_more_char (by simp) h
      obtain ⟨z, rest, rfl, hz, hc, hrest⟩ := piecesFrom_last_char (by simp) h
      refine ⟨rest, ?_, hrest⟩
      rw [← hc, utf8EncodeChar_four b x y z (by omega) h5 hx.1 hx.2 hy.1 hy.2 hz.1 hz.2]
      rfl
    · simp [piecesFrom, Lead.ofByte, h1, h2, h3, h4, h5] at h

theorem piecesFrom_some_ne_nil (u : Underway) (bs : Bytes) : piecesFrom (some u) bs ≠ [] := by
  induction bs generalizing u with
  | nil => simp [piecesFrom]
  | cons b bs ih =>
    unfold piecesFrom
    dsimp only
    split
    · split
      · simp
      · exact ih _
    · simp

theorem pieces_eq_nil {bs : Bytes} (h : pieces bs = []) : bs = [] := by
  cases bs with
  | nil => rfl
  | cons b bs =>
    cases hl : Lead.ofByte b with
    | piece p => simp [pieces, piecesFrom, hl] at h
    | underway u =>
      rw [pieces, piecesFrom_lead b bs u hl] at h
      exact absurd h (piecesFrom_some_ne_nil u bs)

theorem eq_utf8_of_pieces {bs : Bytes} {t : Text} (h : pieces bs = t.map .char) : bs = utf8 t := by
  induction t generalizing bs with
  | nil => exact pieces_eq_nil h
  | cons c t ih =>
    obtain ⟨rest, rfl, hrest⟩ := piecesFrom_char h
    rw [utf8_cons, ih hrest]

theorem mapM_char?_eq_some {ps : List Piece} {t : Text} (h : ps.mapM Piece.char? = some t) : ps = t.map .char := by
  induction ps generalizing t with
  | nil => simp_all
  | cons p ps ih =>
    cases p with
    | stray bytes => simp [Piece.char?] at h
    | char c =>
      simp only [List.mapM_cons, Piece.char?, Option.bind_eq_bind, Option.bind_some] at h
      obtain ⟨u, hu, hut⟩ := Option.bind_eq_some_iff.1 h
      cases hut
      rw [ih hu, List.map_cons]

theorem decode?_eq_some_iff {bs : Bytes} {t : Text} : decode? bs = some t ↔ bs = utf8 t :=
  ⟨fun h => eq_utf8_of_pieces (mapM_char?_eq_some h), fun h => h ▸ decode?_utf8 t⟩

theorem ne_ofNat_of_ascii {b : UInt8} {n : Nat} (hb : b.toNat < 0x80) (hn : 0x80 ≤ n ∧ n < 256) : b ≠ UInt8.ofNat n := by
  rintro rfl
  rw [UInt8.toNat_ofNat_of_lt' hn.2] at hb
  omega

theorem ascii_mem_utf8EncodeChar {c : Char} {b : UInt8} (hb : b.toNat < 0x80) (h : b ∈ String.utf8EncodeChar c) :
    c = Char.ofNat b.toNat := by
  have hc : Char.ofNat c.val.toNat = c := Char.ofNat_toNat c
  unfold String.utf8EncodeChar at h
  generalize c.val.toNat = v at h hc
  dsimp only at h
  by_cases h1 : v ≤ 127
  · rw [if_pos h1] at h
    rw [List.mem_singleton.1 h, UInt8.toNat_ofNat_of_lt' (Nat.lt_of_le_of_lt h1 (by decide)), hc]
  · rw [if_neg h1] at h
    refine absurd h ?_
    have hne : ∀ n, 0x80 ≤ n ∧ n < 256 → b ≠ UInt8.ofNat n := fun n hn => ne_ofNat_of_ascii hb hn
    repeat' split
    · simp only [List.mem_cons, List.not_mem_nil, or_false, not_or]
      exact ⟨hne _ (by omega), hne _ (by omega)⟩
    · simp only [List.mem_cons, List.not_mem_nil, or_false, not_or]
      exact ⟨hne _ (by omega), hne _ (by omega), hne _ (by omega)⟩
    · simp only [List.mem_cons, List.not_mem_nil, or_false, not_or]
      exact ⟨hne _ (by omega), hne _ (by omega), hne _ (by omega), hne _ (by omega)⟩

theorem ascii_mem_utf8_iff {t : Text} {b : UInt8} (hb : b.toNat < 0x80) : b ∈ utf8 t ↔ Char.ofNat b.toNat ∈ t := by
  rw [utf8, List.mem_flatMap]
  constructor
  · rintro ⟨c, hc, h⟩
    exact ascii_mem_utf8EncodeChar hb h ▸ hc
  · exact fun h => ⟨_, h, by rw [utf8EncodeChar_one b hb]; exact List.mem_singleton_self b⟩

theorem zero_mem_utf8_iff {t : Text} : 0 ∈ utf8 t ↔ '\x00' ∈ t := ascii_mem_utf8_iff (by decide)

theorem nul_not_mem_of_decode? {bs : Bytes} {t : Text} (h : decode? bs = some t) (h0 : 0 ∉ bs) : '\x00' ∉ t := by
  rwa [decode?_eq_some_iff.1 h, zero_mem_utf8_iff] at h0

end Slipway
