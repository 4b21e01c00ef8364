set_option autoImplicit false

/-! # Base64

Bytes as text in the standard alphabet: three bytes make four symbols of six bits, and the last
group is padded with `=`. Reading allows the padding to be short or missing, but takes no symbol
that carries less than a byte and no bits after the last byte other than zeros. What is written
reads back (`read?_write`). -/

namespace Stablecoin.Base64

/-! ## Symbols -/

/-- The symbol of a value below sixty-four. -/
def symbol (n : Nat) : Char :=
  if n < 26 then Char.ofNat ('A'.toNat + n)
  else if n < 52 then Char.ofNat ('a'.toNat + (n - 26))
  else if n < 62 then Char.ofNat ('0'.toNat + (n - 52))
  else if n = 62 then '+'
  else '/'

/-- The value of a symbol. -/
def value? (c : Char) : Option Nat :=
  if 'A' ≤ c ∧ c ≤ 'Z' then some (c.toNat - 'A'.toNat)
  else if 'a' ≤ c ∧ c ≤ 'z' then some (c.toNat - 'a'.toNat + 26)
  else if '0' ≤ c ∧ c ≤ '9' then some (c.toNat - '0'.toNat + 52)
  else if c = '+' then some 62
  else if c = '/' then some 63
  else none

theorem value?_symbol : ∀ n < 64, value? (symbol n) = some n ∧ symbol n ≠ '=' := by
  decide

/-! ## Groups -/

/-- The values of the symbols for some bytes. -/
def values : List UInt8 → List Nat
  | [] => []
  | [a] =>
    let n := a.toNat * 16
    [n / 64, n % 64]
  | [a, b] =>
    let n := (a.toNat * 256 + b.toNat) * 4
    [n / 4096, n / 64 % 64, n % 64]
  | a :: b :: c :: rest =>
    let n := (a.toNat * 256 + b.toNat) * 256 + c.toNat
    n / 262144 :: n / 4096 % 64 :: n / 64 % 64 :: n % 64 :: values rest

/-- The bytes that some values stand for. -/
def ofValues? : List Nat → Option (List UInt8)
  | [] => some []
  | [_] => none
  | [a, b] =>
    let n := a * 64 + b
    if n % 16 = 0 then some [UInt8.ofNat (n / 16)] else none
  | [a, b, c] =>
    let n := (a * 64 + b) * 64 + c
    if n % 4 = 0 then some [UInt8.ofNat (n / 1024), UInt8.ofNat (n / 4)] else none
  | a :: b :: c :: d :: rest =>
    let n := ((a * 64 + b) * 64 + c) * 64 + d
    (ofValues? rest).map fun bytes =>
      UInt8.ofNat (n / 65536) :: UInt8.ofNat (n / 256) :: UInt8.ofNat n :: bytes

theorem ofNat_eq_of_mod {n : Nat} (a : UInt8) (h : n % 256 = a.toNat) : UInt8.ofNat n = a := by
  apply UInt8.toNat_inj.1
  rw [UInt8.toNat_ofNat', ← h]

theorem ofValues?_values (bytes : List UInt8) : ofValues? (values bytes) = some bytes := by
  fun_induction values bytes with
  | case1 => rfl
  | case2 a n =>
      have ha := a.toNat_lt
      have back : n / 64 * 64 + n % 64 = n := by omega
      simp only [ofValues?, back]
      rw [if_pos (by omega), ofNat_eq_of_mod a (by omega)]
  | case3 a b n =>
      have ha := a.toNat_lt
      have hb := b.toNat_lt
      have back : (n / 4096 * 64 + n / 64 % 64) * 64 + n % 64 = n := by omega
      simp only [ofValues?, back]
      rw [if_pos (by omega), ofNat_eq_of_mod a (by omega), ofNat_eq_of_mod b (by omega)]
  | case4 a b c rest n ih =>
      have ha := a.toNat_lt
      have hb := b.toNat_lt
      have hc := c.toNat_lt
      have back : ((n / 262144 * 64 + n / 4096 % 64) * 64 + n / 64 % 64) * 64 + n % 64 = n := by
        omega
      simp only [ofValues?, back, ih, Option.map_some]
      rw [ofNat_eq_of_mod a (by omega), ofNat_eq_of_mod b (by omega),
        ofNat_eq_of_mod c (by omega)]

theorem lt_of_mem_values (bytes : List UInt8) : ∀ n ∈ values bytes, n < 64 := by
  fun_induction values bytes with
  | case1 => simp
  | case2 a n =>
      have ha := a.toNat_lt
      simp only [List.mem_cons, List.not_mem_nil, or_false]
      omega
  | case3 a b n =>
      have ha := a.toNat_lt
      have hb := b.toNat_lt
      simp only [List.mem_cons, List.not_mem_nil, or_false]
      omega
  | case4 a b c rest n ih =>
      have ha := a.toNat_lt
      have hb := b.toNat_lt
      have hc := c.toNat_lt
      simp only [List.mem_cons]
      rintro m (h | h | h | h | h)
      · omega
      · omega
      · omega
      · omega
      · exact ih m h

/-! ## Text -/

/-- The padding after the symbols of so many bytes. -/
def padding (bytes : Nat) : List Char :=
  match bytes % 3 with
  | 1 => ['=', '=']
  | 2 => ['=']
  | _ => []

/-- Writes bytes. -/
def write (bytes : List UInt8) : List Char :=
  (values bytes).map symbol ++ padding bytes.length

/-- Padding fills up a last group that holds at least two symbols, or stops short of that. -/
def isPadding (symbols : Nat) (tail : List Char) : Bool :=
  tail.isEmpty || (tail.all (· == '=') && 2 ≤ symbols % 4 && symbols % 4 + tail.length ≤ 4)

/-- Reads symbols and padding. -/
def read? (cs : List Char) : Option (List UInt8) :=
  let symbols := cs.takeWhile (· != '=')
  if isPadding symbols.length (cs.dropWhile (· != '=')) then
    (symbols.mapM value?).bind ofValues?
  else none

theorem mapM_value?_symbols (ns : List Nat) (h : ∀ n ∈ ns, n < 64) :
    (ns.map symbol).mapM value? = some ns := by
  induction ns with
  | nil => rfl
  | cons n rest ih =>
      have hn := (value?_symbol n (h n (by simp))).1
      have hrest := ih fun m hm => h m (by simp [hm])
      simp [hn, hrest]

theorem padding_all (bytes : Nat) : ∀ c ∈ padding bytes, (c != '=') = false := by
  unfold padding
  split <;> simp

theorem isPadding_padding (bytes : List UInt8) :
    isPadding (values bytes).length (padding bytes.length) = true := by
  fun_induction values bytes with
  | case1 => rfl
  | case2 a n => simp [isPadding, padding]
  | case3 a b n => simp [isPadding, padding]
  | case4 a b c rest n ih =>
      have groups : (rest.length + 1 + 1 + 1) % 3 = rest.length % 3 := by omega
      have quads : ((values rest).length + 1 + 1 + 1 + 1) % 4 = (values rest).length % 4 := by omega
      simp only [isPadding, padding, List.length_cons, groups, quads] at ih ⊢
      exact ih

/-- What is written reads back. -/
theorem read?_write (bytes : List UInt8) : read? (write bytes) = some bytes := by
  have plain : ∀ c ∈ (values bytes).map symbol, (c != '=') = true := by
    intro c hc
    obtain ⟨n, hn, rfl⟩ := List.mem_map.1 hc
    simpa using (value?_symbol n (lt_of_mem_values bytes n hn)).2
  have front : (write bytes).takeWhile (· != '=') = (values bytes).map symbol := by
    rw [write, List.takeWhile_append_of_pos plain]
    cases hp : padding bytes.length with
    | nil => simp
    | cons c rest => simp [padding_all bytes.length c (by simp [hp])]
  have back : (write bytes).dropWhile (· != '=') = padding bytes.length := by
    rw [write, List.dropWhile_append_of_pos plain]
    cases hp : padding bytes.length with
    | nil => rfl
    | cons c rest => simp [padding_all bytes.length c (by simp [hp])]
  unfold read?
  simp only [front, back, List.length_map, isPadding_padding, if_true,
    mapM_value?_symbols _ (lt_of_mem_values bytes), Option.bind_some, ofValues?_values]

end Stablecoin.Base64
