import SourceAudit.Rule.Builtin.Files
import SourceAudit.Rule.Draft

/-!
# SourceAudit.Rule.Builtin.Secrets

Credentials in the text of a file: keys, tokens, passwords and connection strings.
-/

namespace SourceAudit.Builtin

/-- What to do about a credential that has leaked. -/
def rotate : String :=
  "Rotate this credential immediately, remove it from the repository and load it from the " ++
  "environment."

/-- Why a leaked credential is a risk. -/
def leaked : String :=
  "Anyone with read access to the repository, or to any fork or clone of it, can use this " ++
  "credential."

/-- The rules for secrets. -/
def secretDrafts : List RuleDraft := [
  { id := "aws-access-key-id"
    category := .secret
    severity := .critical
    title := "Exposed AWS access key ID"
    pattern := "\\b((?:AKIA|ASIA)[0-9A-Z]\x7b16\x7d)\\b"
    description :=
      "AWS access key IDs paired with their secret grant API access to the account. " ++
      leaked
    recommendation := rotate
    secretGroup := 1 },
  { id := "aws-secret-access-key"
    category := .secret
    severity := .critical
    title := "Exposed AWS secret access key"
    pattern := "aws_secret_access_key[\\\"']?\\s*[:=]\\s*[\\\"']?([A-Za-z0-9/+=]\x7b40\x7d)"
    description := "The AWS secret access key signs API requests for the account. " ++ leaked
    recommendation := rotate
    ignoreCase := true
    secretGroup := 1 },
  { id := "github-token"
    category := .secret
    severity := .critical
    title := "Exposed GitHub token"
    pattern := "\\b(gh[pousr]_[A-Za-z0-9_]\x7b36,255\x7d)\\b"
    description :=
      "GitHub tokens act with the permissions of the user or app that issued them. " ++
      leaked
    recommendation := rotate
    secretGroup := 1 },
  { id := "github-fine-grained-token"
    category := .secret
    severity := .critical
    title := "Exposed GitHub fine-grained token"
    pattern := "\\b(github_pat_[A-Za-z0-9_]\x7b82\x7d)\\b"
    description :=
      "Fine-grained personal access tokens grant repository and organization access. " ++
      leaked
    recommendation := rotate
    secretGroup := 1 },
  { id := "stripe-live-key"
    category := .secret
    severity := .critical
    title := "Exposed Stripe live secret key"
    pattern := "\\b((?:sk|rk)_live_[0-9a-zA-Z]\x7b20,\x7d)"
    description :=
      "Live Stripe secret keys can create charges, issue refunds and read customer data."
    recommendation := "Roll the key in the Stripe dashboard and keep it server-side only."
    secretGroup := 1 },
  { id := "stripe-test-key"
    category := .secret
    severity := .medium
    title := "Exposed Stripe test secret key"
    pattern := "\\b(sk_test_[0-9a-zA-Z]\x7b20,\x7d)"
    description := "Test keys cannot move money but expose test-mode data and account structure."
    recommendation := "Test keys should not be committed. Move to environment variables."
    secretGroup := 1 },
  { id := "openai-api-key"
    category := .secret
    severity := .critical
    title := "Exposed OpenAI API key"
    pattern := "\\b(sk-(?:proj-)?[a-zA-Z0-9]\x7b32,\x7d)"
    description := "OpenAI keys are billed per use; a leaked key is usually abused within hours."
    recommendation := rotate
    secretGroup := 1 },
  { id := "anthropic-api-key"
    category := .secret
    severity := .critical
    title := "Exposed Anthropic API key"
    pattern := "\\b(sk-ant-[a-zA-Z0-9_-]\x7b40,\x7d)"
    description :=
      "Anthropic API keys are billed per use and grant access to the organization's " ++
      "workspace."
    recommendation := rotate
    secretGroup := 1 },
  { id := "google-api-key"
    category := .secret
    severity := .high
    title := "Exposed Google API key"
    pattern := "\\b(AIza[0-9A-Za-z_-]\x7b35\x7d)"
    description :=
      "Unrestricted Google API keys can be used against any API enabled on the project."
    recommendation := "Restrict or regenerate the key in the Google Cloud console."
    secretGroup := 1 },
  { id := "slack-token"
    category := .secret
    severity := .critical
    title := "Exposed Slack token"
    pattern := "\\b(xox[baprs]-[0-9]\x7b10,13\x7d-[0-9]\x7b10,13\x7d[a-zA-Z0-9-]*)"
    description := "Slack tokens can read and post messages in the workspace that issued them."
    recommendation := rotate
    secretGroup := 1 },
  { id := "sendgrid-api-key"
    category := .secret
    severity := .critical
    title := "Exposed SendGrid API key"
    pattern := "\\b(SG\\.[a-zA-Z0-9_-]\x7b22\x7d\\.[a-zA-Z0-9_-]\x7b43\x7d)"
    description :=
      "SendGrid keys can send mail from your verified domains, which enables phishing."
    recommendation := rotate
    secretGroup := 1 },
  { id := "twilio-api-key"
    category := .secret
    severity := .high
    title := "Exposed Twilio API key"
    pattern := "\\b(SK[a-f0-9]\x7b32\x7d)\\b"
    description := "Twilio keys can place calls and send SMS billed to your account."
    recommendation := rotate
    secretGroup := 1 },
  { id := "mailgun-api-key"
    category := .secret
    severity := .high
    title := "Exposed Mailgun API key"
    pattern := "\\b(key-[a-zA-Z0-9]\x7b32\x7d)\\b"
    description := "Mailgun keys can send mail and read delivery logs for your domains."
    recommendation := rotate
    secretGroup := 1 },
  { id := "private-key"
    category := .secret
    severity := .critical
    title := "Private key committed"
    pattern := "-----BEGIN (?:RSA |EC |DSA |OPENSSH |ENCRYPTED |PGP )?PRIVATE KEY(?: BLOCK)?-----"
    description :=
      "A committed private key lets anyone impersonate the server, user or signer it belongs " ++
      "to."
    recommendation := "Remove the key, purge it from history and issue a new key pair." },
  { id := "database-url"
    category := .secret
    severity := .critical
    title := "Database connection string with credentials"
    pattern :=
      "\\b(?:mongodb(?:\\+srv)?|postgres(?:ql)?|mysql|redis" ++
      "|amqp)://[^\\s\\\"'/:@]+:([^\\s\\\"'@/]+)@[^\\s\\\"']+"
    description := "The connection string embeds a password for a database or broker."
    recommendation :=
      "Move connection strings to DATABASE_URL in the environment and rotate the password."
    ignoreCase := true
    secretGroup := 1 },
  { id := "jwt-token"
    category := .secret
    severity := .high
    title := "Hardcoded JSON Web Token"
    pattern :=
      "\\b(eyJ[A-Za-z0-9_-]\x7b10,\x7d\\.eyJ[A-Za-z0-9_-]\x7b10,\x7d\\.[A-Za-z0-9_-]\x7b10," ++
      "\x7d)"
    description :=
      "A signed token in source stays valid until it expires and often carries elevated " ++
      "claims."
    recommendation := "Never embed signed tokens in source. Issue them at runtime."
    secretGroup := 1 },
  { id := "npm-auth-token"
    category := .secret
    severity := .high
    title := "npm auth token in configuration"
    pattern := "_authToken\\s*=\\s*([A-Za-z0-9_-]\x7b20,\x7d)"
    appliesTo := [".npmrc", ".yarnrc", "*.npmrc"]
    description := "npm auth tokens can publish packages under your account."
    recommendation := "Use $\x7bNPM_TOKEN\x7d substitution instead of a literal token."
    secretGroup := 1 },
  { id := "generic-api-key"
    category := .secret
    severity := .high
    title := "Hardcoded API key"
    pattern := "[\\\"']?api[_-]?key[\\\"']?\\s*[:=]\\s*[\\\"']([A-Za-z0-9_\\-]\x7b20,\x7d)[\\\"']"
    description := "A literal value is assigned to an API key field."
    recommendation := "Move API keys to environment variables."
    ignoreCase := true
    secretGroup := 1 },
  { id := "hardcoded-password"
    category := .secret
    severity := .high
    title := "Hardcoded password or secret"
    pattern :=
      "\\b(?:password|passwd|pwd|secret|api_secret|client_secret" ++
      "|auth_token)\\b[\\\"']?\\s*[:=]\\s*[\\\"']([^\\\"'\\s]\x7b8,\x7d)[\\\"']"
    appliesTo := code ++ configuration
    description := "A literal value is assigned to a password or secret field."
    recommendation := "Move secrets to environment variables or a secrets manager."
    ignoreCase := true
    secretGroup := 1 },
  { id := "env-file-secret"
    category := .secret
    severity := .high
    title := "Secret committed in an environment file"
    pattern :=
      "^\\s*(?:export\\s+)?[A-Z][A-Z0-9_]*(?:SECRET|TOKEN|KEY|PASSWORD" ++
      "|PASS)[A-Z0-9_]*\\s*=\\s*[\\\"']?([^\\s\\\"'#]\x7b6,\x7d)"
    appliesTo := environmentFiles
    description := "Environment files are meant to stay local; this one holds a secret value."
    recommendation := "Add .env files to .gitignore and rotate every value that was committed."
    secretGroup := 1 },
  { id := "commented-secret"
    category := .secret
    severity := .high
    title := "Credential left in a comment"
    pattern :=
      "(?://|#|/\\*|<!--)[^\\n]\x7b0,80\x7d?\\b(?:password|passwd|pwd|api[_-]?key|apikey" ++
      "|secret|token)\\b[\\\"']?\\s*[:=]\\s*[\\\"']?([^\\s\\\"']\x7b6,\x7d)"
    appliesTo := code ++ configuration ++ environmentFiles ++ containerFiles
    description := "Credentials in comments are still visible in source control."
    recommendation :=
      "Delete the comment and rotate the credential; commented-out values stay in history."
    ignoreCase := true
    secretGroup := 1 }]

end SourceAudit.Builtin
