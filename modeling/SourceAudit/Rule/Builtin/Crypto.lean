import SourceAudit.Rule.Builtin.Files
import SourceAudit.Rule.Draft

/-!
# SourceAudit.Rule.Builtin.Crypto

Broken hashes and ciphers, short keys and predictable random values.
-/

namespace SourceAudit.Builtin

/-- The rules for weak cryptography. -/
def cryptoDrafts : List RuleDraft := [
  { id := "weak-hash-md5"
    category := .weakCrypto
    severity := .medium
    title := "MD5 used for hashing"
    pattern :=
      "\\bhashlib\\.md5\\s*\\(|createHash\\s*\\(\\s*[\\\"']md5[\\\"']\\s*\\)" ++
      "|\\bDigestUtils\\.md5"
    appliesTo := code
    description :=
      "MD5 collisions are cheap to produce and MD5 password hashes are cracked quickly."
    recommendation := "Use SHA-256 or better; use bcrypt/argon2 for passwords." },
  { id := "weak-hash-sha1"
    category := .weakCrypto
    severity := .low
    title := "SHA-1 used for hashing"
    pattern := "\\bhashlib\\.sha1\\s*\\(|createHash\\s*\\(\\s*[\\\"']sha1[\\\"']\\s*\\)"
    appliesTo := code
    description := "SHA-1 is no longer collision resistant."
    recommendation := "Use SHA-256 or better." },
  { id := "weak-cipher"
    category := .weakCrypto
    severity := .medium
    title := "Weak cipher or ECB mode"
    pattern :=
      "AES\\.MODE_ECB|\\bmodes\\.ECB\\s*\\(|[\\\"']aes-\\d+-ecb[\\\"']|\\bDES\\.new\\s*\\(" ++
      "|\\bARC4\\.new\\s*\\(|[\\\"']des(?:-ede3)?(?:-cbc)?[\\\"']|[\\\"']rc4[\\\"']"
    appliesTo := code
    description := "DES and RC4 are broken, and ECB mode leaks patterns in the plaintext."
    recommendation := "Use AES-GCM or ChaCha20-Poly1305 from a maintained library."
    ignoreCase := true },
  { id := "insecure-randomness"
    category := .weakCrypto
    severity := .medium
    title := "Non-cryptographic randomness for a secret value"
    pattern :=
      "(?:token|secret|password|nonce|salt|otp)\\w*\\s*[:=].*(?:Math\\.random\\s*\\(" ++
      "|\\brandom\\.(?:random|randint|choice|choices|getrandbits)\\s*\\()"
    appliesTo := code
    description :=
      "Math.random and the random module are predictable and must not generate secrets."
    recommendation :=
      "Use secrets.token_urlsafe (Python) or crypto.randomBytes / crypto.randomUUID (Node)."
    ignoreCase := true },
  { id := "weak-rsa-key"
    category := .weakCrypto
    severity := .medium
    title := "RSA key shorter than 2048 bits"
    pattern := "(?:key_size|modulusLength|bits)\\s*[=:]\\s*(?:512|768|1024)\\b"
    appliesTo := code
    description := "RSA keys of 1024 bits or fewer are within reach of factoring."
    recommendation := "Use at least 2048-bit RSA keys, or elliptic curve keys." },
  { id := "jwt-none-algorithm"
    category := .weakCrypto
    severity := .high
    title := "JWT verification allows the none algorithm"
    pattern := "algorithms?\\s*[:=]\\s*\\[?\\s*[\\\"']none[\\\"']"
    appliesTo := code
    description := "Accepting alg none lets anyone forge tokens without a key."
    recommendation := "Pin the expected signing algorithm explicitly."
    ignoreCase := true }]

end SourceAudit.Builtin
