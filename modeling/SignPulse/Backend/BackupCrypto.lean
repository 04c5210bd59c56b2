import SignPulse.Foundation.Bytes

/-!
# Encrypted backups

The container that `encrypt_backup` of `backup_crypto.py` writes and `decrypt_backup` reads: a
header of 41 bytes, which the cipher authenticates, and the ciphertext.
-/

namespace SignPulse.BackupCrypto

open Foundation

def magic : Bytes :=
  [83, 80, 66, 65, 75]

def formatVersion : UInt8 := 1
def kdfPbkdf2Sha256 : UInt8 := 1
def cipherAes256Gcm : UInt8 := 1
def modeAppSecret : UInt8 := 1
def modeUserPassword : UInt8 := 2
def headerLength : ℕ := 41
def defaultIterations : ℤ := 600000
def minIterations : ℤ := 200000
def maxIterations : ℤ := 2000000
def maxEncryptInputBytes : ℕ := 100 * 1024 * 1024

inductive BackupError where
  | valueError (message : String)
  | backupDecryptionError (message : String)
  /-- A password or a secret with a surrogate. -/
  | unicodeEncodeError
  deriving DecidableEq

/-- The key derivation and the cipher, whose decryption raises an error for what it does not
authenticate. -/
structure Primitives where
  pbkdf2 : (secret salt : Bytes) → (iterations : ℕ) → Bytes
  encrypt : (key nonce data header : Bytes) → Bytes
  decrypt : (key nonce ciphertext header : Bytes) → Option Bytes

/-- What has been encrypted under a key. -/
structure Message where
  key : Bytes
  nonce : Bytes
  data : Bytes
  header : Bytes

/-- The cipher gives back what has been encrypted, and nobody can make anything else that it
accepts. -/
structure Primitives.Secure (primitives : Primitives) (messages : List Message) : Prop where
  correct : ∀ message ∈ messages, primitives.decrypt message.key message.nonce
    (primitives.encrypt message.key message.nonce message.data message.header) message.header =
      some message.data
  tagged : ∀ message ∈ messages,
    (primitives.encrypt message.key message.nonce message.data message.header).length =
      message.data.length + 16
  unforgeable : ∀ key nonce ciphertext header data,
    primitives.decrypt key nonce ciphertext header = some data → ∃ message ∈ messages,
      message.key = key ∧ message.nonce = nonce ∧ message.header = header ∧
        primitives.encrypt message.key message.nonce message.data message.header = ciphertext

/-- What `os.urandom` returns for the salt and the nonce. -/
structure Randomness where
  salt : Bytes
  nonce : Bytes
  salt_length : salt.length = 16
  nonce_length : nonce.length = 12

/-- `_derive_key`. -/
def deriveKey (primitives : Primitives) (secret : CodePoints) (salt : Bytes) (iterations : ℕ) :
    Option Bytes :=
  (encodeUtf8 secret).map fun secret => primitives.pbkdf2 secret salt iterations

/-- A password that is neither missing nor empty. -/
def given (password : Option CodePoints) : Option CodePoints :=
  password.filter fun password => !password.isEmpty

/-- The mode and the secret that a backup is encrypted with. -/
def chosenSecret (secretKey : CodePoints) (password : Option CodePoints) :
    Option (UInt8 × CodePoints) :=
  match given password with
  | some password => some (modeUserPassword, password)
  | none => (given (some secretKey)).map fun secretKey => (modeAppSecret, secretKey)

def canonicalHeader (mode : UInt8) (iterations : ℕ) (random : Randomness) : Bytes :=
  magic ++ ([formatVersion] ++ ([kdfPbkdf2Sha256] ++ ([cipherAes256Gcm] ++ ([mode] ++
    (packBigEndian 4 iterations ++ (random.salt ++ (random.nonce ++ [])))))))

/-- `encrypt_backup`. -/
def encryptBackup (primitives : Primitives) (secretKey : CodePoints) (random : Randomness)
    (data : Bytes) (password : Option CodePoints) (iterations : ℤ) : Except BackupError Bytes :=
  if maxEncryptInputBytes < data.length then
    .error (.valueError ("待加密数据超过单包内存安全上限 (" ++ toString maxEncryptInputBytes ++ " 字节)"))
  else if ¬ (minIterations ≤ iterations ∧ iterations ≤ maxIterations) then
    .error (.valueError ("iterations 必须在 " ++ toString minIterations ++ " 到 " ++
      toString maxIterations ++ " 之间，当前为 " ++ toString iterations))
  else
    match chosenSecret secretKey password with
    | none => .error (.valueError "未配置 secret_key，无法执行默认加密备份")
    | some (mode, secret) =>
      match deriveKey primitives secret random.salt iterations.toNat with
      | none => .error .unicodeEncodeError
      | some key =>
        let header := canonicalHeader mode iterations.toNat random
        if header.length ≠ headerLength then
          .error (.valueError ("头部长度必须为 41 字节，当前为 " ++ toString header.length))
        else .ok (header ++ primitives.encrypt key random.nonce data header)

def byteAt (header : Bytes) (index : ℕ) : UInt8 :=
  header.getD index 0

def iterationsOf (header : Bytes) : ℕ :=
  unpackBigEndian (slice header 9 13)

def headerFault (header : Bytes) : Option String :=
  if header.take 5 ≠ magic then some "无效的魔数标识"
  else if byteAt header 5 ≠ formatVersion then
    some ("不支持的归档格式版本: " ++ toString (byteAt header 5))
  else if byteAt header 6 ≠ kdfPbkdf2Sha256 then some "不支持的 KDF 算法"
  else if byteAt header 7 ≠ cipherAes256Gcm then some "不支持的加密算法"
  else if ¬ (minIterations ≤ iterationsOf header ∧ iterationsOf header ≤ maxIterations) then
    some "Iterations 超出安全范围"
  else none

def secretOf (secretKey : CodePoints) (mode : UInt8) (password : Option CodePoints) :
    Except String CodePoints :=
  if mode = modeUserPassword then
    match given password with
    | some password => .ok password
    | none => .error "该归档由用户密码加密，请输入密码"
  else if mode = modeAppSecret then
    match given (some secretKey) with
    | some secretKey => .ok secretKey
    | none => .error "系统缺少 secret_key"
  else .error ("未知的加密模式: " ++ toString mode)

/-- `decrypt_backup`, after the length has been checked. -/
def decryptParts (primitives : Primitives) (secretKey : CodePoints) (header ciphertext : Bytes)
    (password : Option CodePoints) : Except BackupError Bytes :=
  match headerFault header with
  | some message => .error (.backupDecryptionError message)
  | none =>
    match secretOf secretKey (byteAt header 8) password with
    | .error message => .error (.backupDecryptionError message)
    | .ok secret =>
      match deriveKey primitives secret (slice header 13 29) (iterationsOf header) with
      | none => .error .unicodeEncodeError
      | some key =>
        match primitives.decrypt key (slice header 29 41) ciphertext header with
        | some data => .ok data
        | none => .error
            (.backupDecryptionError "备份解密认证失败，密码错误或归档已被篡改")

/-- `decrypt_backup`. -/
def decryptBackup (primitives : Primitives) (secretKey : CodePoints) (spbak : Bytes)
    (password : Option CodePoints) : Except BackupError Bytes :=
  if spbak.length < headerLength + 16 then
    .error (.backupDecryptionError "备份文件长度过短，非合规 .spbak 格式")
  else
    decryptParts primitives secretKey (spbak.take headerLength) (spbak.drop headerLength) password

/-! ## The header -/

section Headers

variable {mode : UInt8} {iterations : ℕ} {random : Randomness}

theorem length_canonicalHeader : (canonicalHeader mode iterations random).length = headerLength := by
  simp [canonicalHeader, length_packBigEndian, random.salt_length, random.nonce_length, magic,
    headerLength]

theorem mode_canonicalHeader : byteAt (canonicalHeader mode iterations random) 8 = mode := rfl

theorem iterationsOf_canonicalHeader (hiterations : iterations < 256 ^ 4) :
    iterationsOf (canonicalHeader mode iterations random) = iterations := by
  have hslice : slice (canonicalHeader mode iterations random) 9 13 = packBigEndian 4 iterations :=
    @slice_append UInt8 9 13
      (magic ++ [formatVersion, kdfPbkdf2Sha256, cipherAes256Gcm, mode]) _ _ rfl
      (by rw [length_packBigEndian])
  rw [iterationsOf, hslice, unpackBigEndian_packBigEndian, Nat.mod_eq_of_lt hiterations]

theorem salt_canonicalHeader : slice (canonicalHeader mode iterations random) 13 29 = random.salt :=
  @slice_append UInt8 13 29
    (magic ++ [formatVersion, kdfPbkdf2Sha256, cipherAes256Gcm, mode] ++
      packBigEndian 4 iterations) _ _ rfl (by rw [random.salt_length])

theorem nonce_canonicalHeader :
    slice (canonicalHeader mode iterations random) 29 41 = random.nonce := by
  have hbefore : (magic ++ [formatVersion, kdfPbkdf2Sha256, cipherAes256Gcm, mode] ++
      packBigEndian 4 iterations ++ random.salt).length = 29 := by
    rw [List.length_append, random.salt_length]
    rfl
  have hfield := @slice_append UInt8 29 41 _ random.nonce [] hbefore (by rw [random.nonce_length])
  rw [List.append_assoc, List.append_assoc] at hfield
  exact hfield

theorem headerFault_canonicalHeader (hiterations : iterations < 256 ^ 4)
    (hmin : minIterations ≤ iterations) (hmax : iterations ≤ maxIterations) :
    headerFault (canonicalHeader mode iterations random) = none := by
  have hmagic : (canonicalHeader mode iterations random).take 5 = magic := rfl
  have hversion : byteAt (canonicalHeader mode iterations random) 5 = formatVersion := rfl
  have hkdf : byteAt (canonicalHeader mode iterations random) 6 = kdfPbkdf2Sha256 := rfl
  have hcipher : byteAt (canonicalHeader mode iterations random) 7 = cipherAes256Gcm := rfl
  rw [headerFault, iterationsOf_canonicalHeader hiterations, if_neg (not_not.2 hmagic),
    if_neg (not_not.2 hversion), if_neg (not_not.2 hkdf), if_neg (not_not.2 hcipher),
    if_neg (not_not.2 ⟨hmin, hmax⟩)]

end Headers

/-! ## What can be decrypted -/

/-- The password or the secret has no surrogates. -/
def Encodable (text : Option CodePoints) : Prop :=
  ∀ points, text = some points → ∃ bytes, encodeUtf8 points = some bytes

section Containers

variable {primitives : Primitives} {secretKey : CodePoints} {password : Option CodePoints}
variable {messages : List Message} {spbak data : Bytes}

theorem given_eq_some {points : CodePoints} (hgiven : given password = some points) :
    password = some points :=
  (Option.filter_eq_some_iff.1 hgiven).1

theorem message_of_decryptBackup (hsecure : primitives.Secure messages)
    (hdecrypt : decryptBackup primitives secretKey spbak password = .ok data) :
    ∃ message ∈ messages, spbak = message.header ++
        primitives.encrypt message.key message.nonce message.data message.header ∧
      ∃ secret bytes, secretOf secretKey (byteAt message.header 8) password = .ok secret ∧
        encodeUtf8 secret = some bytes ∧
        message.key = primitives.pbkdf2 bytes (slice message.header 13 29)
          (iterationsOf message.header) := by
  unfold decryptBackup at hdecrypt
  split at hdecrypt
  · contradiction
  · unfold decryptParts at hdecrypt
    split at hdecrypt
    · contradiction
    · split at hdecrypt
      · contradiction
      · next secret hsecret =>
        split at hdecrypt
        · contradiction
        · next key hkey =>
          obtain ⟨bytes, hbytes, rfl⟩ := Option.map_eq_some_iff.1 hkey
          split at hdecrypt
          · next found hfound =>
            obtain ⟨message, hmessage, hkey, -, hheader, hciphertext⟩ :=
              hsecure.unforgeable _ _ _ _ _ hfound
            rw [← hheader] at hsecret hkey
            refine ⟨message, hmessage, ?_, secret, bytes, hsecret, hbytes, hkey⟩
            rw [hciphertext, hheader, List.take_append_drop]
          · contradiction

theorem encodable_secretOf {mode : UInt8} {secret : CodePoints} (hpassword : Encodable password)
    (hsecretKey : Encodable (some secretKey))
    (hsecret : secretOf secretKey mode password = .ok secret) :
    ∃ bytes, encodeUtf8 secret = some bytes := by
  unfold secretOf at hsecret
  split at hsecret
  · split at hsecret
    · next found hgiven =>
      obtain rfl := Except.ok.inj hsecret
      exact hpassword found (given_eq_some hgiven)
    · contradiction
  · split at hsecret
    · split at hsecret
      · next found hgiven =>
        obtain rfl := Except.ok.inj hsecret
        exact hsecretKey found (given_eq_some hgiven)
      · contradiction
    · contradiction

theorem refused_of_not_ok (hpassword : Encodable password) (hsecretKey : Encodable (some secretKey))
    (hnever : ∀ data, decryptBackup primitives secretKey spbak password ≠ .ok data) :
    ∃ message, decryptBackup primitives secretKey spbak password =
      .error (.backupDecryptionError message) := by
  unfold decryptBackup at hnever ⊢
  split
  · exact ⟨_, rfl⟩
  · next hlong =>
    rw [if_neg hlong] at hnever
    unfold decryptParts at hnever ⊢
    split
    · exact ⟨_, rfl⟩
    · next hfault =>
      rw [hfault] at hnever
      dsimp only at hnever
      split
      · exact ⟨_, rfl⟩
      · next secret hsecret =>
        obtain ⟨bytes, hbytes⟩ := encodable_secretOf hpassword hsecretKey hsecret
        have hkey (salt : Bytes) (iterations : ℕ) : deriveKey primitives secret salt
            iterations = some (primitives.pbkdf2 bytes salt iterations) := by
          rw [deriveKey, hbytes]
          rfl
        rw [hsecret] at hnever
        dsimp only at hnever
        rw [hkey] at hnever ⊢
        dsimp only at hnever ⊢
        split
        · next data hdata =>
          rw [hdata] at hnever
          exact absurd rfl (hnever data)
        · exact ⟨_, rfl⟩

theorem deriveKey_of_encoded {secret : CodePoints} {bytes salt : Bytes} {iterations : ℕ}
    (hsecret : encodeUtf8 secret = some bytes) :
    deriveKey primitives secret salt iterations = some (primitives.pbkdf2 bytes salt iterations) := by
  rw [deriveKey, hsecret]
  rfl

theorem secretOf_chosenSecret {mode : UInt8} {secret : CodePoints}
    (hchosen : chosenSecret secretKey password = some (mode, secret)) :
    secretOf secretKey mode password = .ok secret := by
  unfold chosenSecret at hchosen
  split at hchosen
  · next found hgiven =>
    obtain ⟨rfl, rfl⟩ := Prod.mk.inj (Option.some.inj hchosen)
    rw [secretOf, if_pos rfl, hgiven]
  · obtain ⟨found, hgiven, hpair⟩ := Option.map_eq_some_iff.1 hchosen
    obtain ⟨rfl, rfl⟩ := Prod.mk.inj hpair
    rw [secretOf, if_neg (by decide), if_pos rfl, hgiven]

theorem encryptBackup_eq {random : Randomness} {iterations : ℤ} {mode : UInt8}
    {secret : CodePoints} {bytes : Bytes} (hsize : data.length ≤ maxEncryptInputBytes)
    (hiterations : minIterations ≤ iterations ∧ iterations ≤ maxIterations)
    (hchosen : chosenSecret secretKey password = some (mode, secret))
    (hsecret : encodeUtf8 secret = some bytes) :
    encryptBackup primitives secretKey random data password iterations =
      .ok (canonicalHeader mode iterations.toNat random ++
        primitives.encrypt (primitives.pbkdf2 bytes random.salt iterations.toNat) random.nonce data
          (canonicalHeader mode iterations.toNat random)) := by
  rw [encryptBackup, if_neg (Nat.not_lt.2 hsize), if_neg (not_not.2 hiterations), hchosen]
  dsimp only
  rw [deriveKey_of_encoded hsecret]
  exact if_neg (not_not.2 length_canonicalHeader)

theorem decryptBackup_append {header ciphertext : Bytes} (hheader : header.length = headerLength)
    (hciphertext : 16 ≤ ciphertext.length) :
    decryptBackup primitives secretKey (header ++ ciphertext) password =
      decryptParts primitives secretKey header ciphertext password := by
  have hlong : ¬ (header ++ ciphertext).length < headerLength + 16 := by
    rw [List.length_append, hheader]
    omega
  rw [decryptBackup, if_neg hlong, List.take_left' hheader, List.drop_left' hheader]

end Containers

/-- What a backup encrypts. -/
def messageOf (primitives : Primitives) (secret : Bytes) (random : Randomness) (data : Bytes)
    (mode : UInt8) (iterations : ℤ) : Message where
  key := primitives.pbkdf2 secret random.salt iterations.toNat
  nonce := random.nonce
  data := data
  header := canonicalHeader mode iterations.toNat random

/-- A backup is decrypted with its own password, any other byte string is refused, and so is a
password that gives another key. -/
theorem decryptBackup_encryptBackup {primitives : Primitives} {secretKey : CodePoints}
    {random : Randomness} {data secretBytes : Bytes} {password : Option CodePoints}
    {iterations : ℤ} {mode : UInt8} {secret : CodePoints}
    (hsize : data.length ≤ maxEncryptInputBytes)
    (hiterations : minIterations ≤ iterations ∧ iterations ≤ maxIterations)
    (hchosen : chosenSecret secretKey password = some (mode, secret))
    (hsecret : encodeUtf8 secret = some secretBytes) (hsecretKey : Encodable (some secretKey))
    (hsecure : primitives.Secure [messageOf primitives secretBytes random data mode iterations]) :
    ∃ container, encryptBackup primitives secretKey random data password iterations =
        .ok container ∧
      decryptBackup primitives secretKey container password = .ok data ∧
      (∀ other ≠ container, ∀ attempt, Encodable attempt → ∃ message,
        decryptBackup primitives secretKey other attempt =
          .error (.backupDecryptionError message)) ∧
      (mode = modeUserPassword → ∀ attempt, Encodable attempt →
        (∀ points bytes, attempt = some points → encodeUtf8 points = some bytes →
          primitives.pbkdf2 bytes random.salt iterations.toNat ≠
            primitives.pbkdf2 secretBytes random.salt iterations.toNat) →
        ∃ message, decryptBackup primitives secretKey container attempt =
          .error (.backupDecryptionError message)) := by
  have hcast : (iterations.toNat : ℤ) = iterations :=
    Int.toNat_of_nonneg (le_trans (by decide) hiterations.1)
  have hbound : iterations.toNat < 256 ^ 4 := by
    have hmax := hiterations.2
    unfold maxIterations at hmax
    omega
  have hfault := @headerFault_canonicalHeader mode iterations.toNat random hbound
    (by rw [hcast]; exact hiterations.1) (by rw [hcast]; exact hiterations.2)
  refine ⟨_, encryptBackup_eq hsize hiterations hchosen hsecret, ?_, ?_, ?_⟩
  · have htagged := hsecure.tagged _ List.mem_cons_self
    have hcorrect := hsecure.correct _ List.mem_cons_self
    dsimp only [messageOf] at htagged hcorrect
    rw [decryptBackup_append length_canonicalHeader (htagged ▸ Nat.le_add_left _ _), decryptParts,
      hfault]
    dsimp only
    rw [mode_canonicalHeader, secretOf_chosenSecret hchosen]
    dsimp only
    rw [deriveKey_of_encoded hsecret]
    dsimp only
    rw [salt_canonicalHeader, nonce_canonicalHeader, iterationsOf_canonicalHeader hbound, hcorrect]
  · intro other hother attempt hattempt
    refine refused_of_not_ok hattempt hsecretKey fun found hfound => hother ?_
    obtain ⟨message, hmessage, hcontainer, -⟩ := message_of_decryptBackup hsecure hfound
    rw [hcontainer, List.mem_singleton.1 hmessage]
    rfl
  · rintro rfl attempt hattempt hkeys
    refine refused_of_not_ok hattempt hsecretKey fun found hfound => ?_
    obtain ⟨message, hmessage, -, points, bytes, hpoints, hbytes, hkey⟩ :=
      message_of_decryptBackup hsecure hfound
    obtain rfl := List.mem_singleton.1 hmessage
    dsimp only [messageOf] at hpoints hkey
    rw [mode_canonicalHeader, secretOf, if_pos rfl] at hpoints
    rw [salt_canonicalHeader, iterationsOf_canonicalHeader hbound] at hkey
    split at hpoints
    · next given hgiven =>
      obtain rfl := Except.ok.inj hpoints
      exact hkeys given bytes (given_eq_some hgiven) hbytes hkey.symm
    · contradiction

/-! ## Examples -/

def demoRandom : Randomness where
  salt := List.replicate 16 0
  nonce := List.replicate 12 0
  salt_length := rfl
  nonce_length := rfl

/-- The key of the password "p" after 200000 iterations. -/
def demoKey : Bytes :=
  [40, 196, 33, 145, 140, 92, 218, 246, 147, 228, 169, 219, 127, 138, 43, 149, 184, 8, 241, 247, 64,
    3, 214, 98, 63, 200, 37, 83, 69, 150, 153, 216]

def demoHeader : Bytes :=
  canonicalHeader modeUserPassword 200000 demoRandom

/-- The bytes of "hi" under that key. -/
def demoCiphertext : Bytes :=
  [61, 233, 235, 193, 75, 169, 40, 244, 42, 111, 214, 77, 21, 57, 103, 108, 151, 227]

def demoPrimitives : Primitives where
  pbkdf2 secret salt iterations :=
    if secret = [112] ∧ salt = demoRandom.salt ∧ iterations = 200000 then demoKey else []
  encrypt key nonce data header :=
    if key = demoKey ∧ nonce = demoRandom.nonce ∧ data = [104, 105] ∧ header = demoHeader then
      demoCiphertext
    else []
  decrypt key nonce ciphertext header :=
    if key = demoKey ∧ nonce = demoRandom.nonce ∧ ciphertext = demoCiphertext ∧
      header = demoHeader then some [104, 105]
    else none

theorem secure_demo : demoPrimitives.Secure
    [messageOf demoPrimitives [112] demoRandom [104, 105] modeUserPassword minIterations] where
  correct message hmessage := by
    rw [List.mem_singleton.1 hmessage]
    decide
  tagged message hmessage := by
    rw [List.mem_singleton.1 hmessage]
    decide
  unforgeable key nonce ciphertext header data hdecrypt := by
    refine ⟨_, List.mem_cons_self, ?_⟩
    simp only [demoPrimitives] at hdecrypt
    split at hdecrypt
    · next hsame =>
      obtain ⟨rfl, rfl, rfl, rfl⟩ := hsame
      decide
    · contradiction

theorem decryptBackup_demo :
    ∃ container, encryptBackup demoPrimitives [107] demoRandom [104, 105] (some [112])
        minIterations = .ok container ∧
      decryptBackup demoPrimitives [107] container (some [112]) = .ok [104, 105] ∧
      (∀ other ≠ container, ∀ attempt, Encodable attempt → ∃ message,
        decryptBackup demoPrimitives [107] other attempt =
          .error (.backupDecryptionError message)) ∧
      ∃ message, decryptBackup demoPrimitives [107] container (some [113]) =
        .error (.backupDecryptionError message) := by
  have hsecretKey : Encodable (some [107]) := by
    rintro points hpoints
    cases hpoints
    exact ⟨[107], by decide⟩
  have hattempt : Encodable (some [113]) := by
    rintro points hpoints
    cases hpoints
    exact ⟨[113], by decide⟩
  obtain ⟨container, hencrypt, hdecrypt, hother, hwrong⟩ :=
    @decryptBackup_encryptBackup demoPrimitives [107] demoRandom [104, 105] [112] (some [112])
      minIterations modeUserPassword [112] (by decide) (by decide) rfl (by decide)
      hsecretKey secure_demo
  refine ⟨container, hencrypt, hdecrypt, hother, hwrong rfl (some [113]) hattempt ?_⟩
  intro points bytes hpoints hbytes
  cases hpoints
  have hencoded : encodeUtf8 [113] = some [113] := by decide
  obtain rfl := Option.some.inj (hencoded.symm.trans hbytes)
  decide

/-- A cipher that accepts one message only. -/
def idealPrimitives (pbkdf2 : Bytes → Bytes → ℕ → Bytes) (message : Message) : Primitives where
  pbkdf2 := pbkdf2
  encrypt _ _ data _ := data ++ List.replicate 16 0
  decrypt key nonce ciphertext header :=
    if key = message.key ∧ nonce = message.nonce ∧ header = message.header ∧
      ciphertext = message.data ++ List.replicate 16 0 then some message.data
    else none

theorem secure_ideal (pbkdf2 : Bytes → Bytes → ℕ → Bytes) (message : Message) :
    (idealPrimitives pbkdf2 message).Secure [message] where
  correct found hfound := by
    rw [List.mem_singleton.1 hfound]
    exact if_pos ⟨rfl, rfl, rfl, rfl⟩
  tagged found _ := by
    rw [idealPrimitives, List.length_append, List.length_replicate]
  unforgeable key nonce ciphertext header data hdecrypt := by
    simp only [idealPrimitives] at hdecrypt
    split at hdecrypt
    · next hsame => exact ⟨message, List.mem_cons_self, hsame.1.symm, hsame.2.1.symm,
        hsame.2.2.1.symm, hsame.2.2.2.symm⟩
    · contradiction

/-- Keys as HMAC makes them of short secrets: zeros are added at the end. -/
def paddedKey (secret _salt : Bytes) (_iterations : ℕ) : Bytes :=
  secret ++ List.replicate (64 - secret.length) 0

def paddedPrimitives (data : Bytes) : Primitives :=
  idealPrimitives paddedKey (messageOf (idealPrimitives paddedKey ⟨[], [], [], []⟩) [97] demoRandom
    data modeUserPassword defaultIterations)

theorem secure_padded (data : Bytes) : (paddedPrimitives data).Secure
    [messageOf (paddedPrimitives data) [97] demoRandom data modeUserPassword defaultIterations] :=
  secure_ideal _ _

/-- A payload above the limit is not encrypted, and a password with a zero at its end gives the
same key. -/
theorem encryptBackup_refuses :
    (¬ ∀ (primitives : Primitives) (secretKey : CodePoints) (random : Randomness) (data : Bytes)
        (password : CodePoints) (secretBytes : Bytes), encodeUtf8 password = some secretBytes →
      password ≠ [] →
      primitives.Secure
        [messageOf primitives secretBytes random data modeUserPassword defaultIterations] →
      ∃ container, encryptBackup primitives secretKey random data (some password)
          defaultIterations = .ok container ∧
        decryptBackup primitives secretKey container (some password) = .ok data) ∧
    ¬ ∀ (primitives : Primitives) (secretKey : CodePoints) (random : Randomness) (data : Bytes)
        (password : CodePoints) (secretBytes container : Bytes),
      encodeUtf8 password = some secretBytes → password ≠ [] →
      primitives.Secure
        [messageOf primitives secretBytes random data modeUserPassword defaultIterations] →
      encryptBackup primitives secretKey random data (some password) defaultIterations =
        .ok container →
      ∀ attempt ≠ some password, Encodable attempt → ∃ message,
        decryptBackup primitives secretKey container attempt =
          .error (.backupDecryptionError message) := by
  have hencoded : encodeUtf8 [97] = some [97] := by decide
  constructor
  · intro hclaim
    obtain ⟨container, hencrypt, -⟩ := hclaim
      (paddedPrimitives (List.replicate (maxEncryptInputBytes + 1) 0)) [107] demoRandom
      (List.replicate (maxEncryptInputBytes + 1) 0) [97] [97] hencoded (by decide)
      (secure_padded _)
    rw [encryptBackup, if_pos (by rw [List.length_replicate]; exact Nat.lt_succ_self _)] at hencrypt
    contradiction
  · intro hclaim
    have hencrypt := @encryptBackup_eq (paddedPrimitives [104, 105]) [107] (some [97]) [104, 105]
      demoRandom defaultIterations modeUserPassword [97] [97] (by decide) (by decide) rfl hencoded
    have hattempt : Encodable (some [97, 0]) := by
      rintro points hpoints
      cases hpoints
      exact ⟨[97, 0], by decide⟩
    obtain ⟨message, hrefused⟩ := hclaim (paddedPrimitives [104, 105]) [107] demoRandom [104, 105]
      [97] [97] _ hencoded (by decide) (secure_padded _) hencrypt (some [97, 0]) (by decide) hattempt
    have hfailed := (congrArg Except.isOk hrefused).trans (rfl : _ = false)
    revert hfailed
    decide

end SignPulse.BackupCrypto
