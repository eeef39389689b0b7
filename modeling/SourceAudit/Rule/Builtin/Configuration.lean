import SourceAudit.Rule.Builtin.Files
import SourceAudit.Rule.Draft

/-!
# SourceAudit.Rule.Builtin.Configuration

Settings that switch a protection off, and dependencies known to be unsafe.
-/

namespace SourceAudit.Builtin

/-- The rules for misconfiguration. -/
def configurationDrafts : List RuleDraft := [
  { id := "tls-verification-disabled"
    category := .misconfig
    severity := .high
    title := "TLS certificate verification disabled"
    pattern :=
      "\\bverify\\s*=\\s*False\\b|rejectUnauthorized\\s*:\\s*false" ++
      "|NODE_TLS_REJECT_UNAUTHORIZED\\s*=\\s*[\\\"']?0|InsecureSkipVerify\\s*:\\s*true"
    appliesTo := code ++ configuration ++ environmentFiles
    description :=
      "Without certificate checks any network attacker can read and alter the traffic."
    recommendation := "Keep certificate verification on; trust a custom CA bundle if needed." },
  { id := "cors-wildcard"
    category := .misconfig
    severity := .medium
    title := "CORS allows any origin"
    pattern :=
      "Access-Control-Allow-Origin[\\\"']?\\s*[:,]\\s*[\\\"']\\*[\\\"']" ++
      "|allow_origins\\s*=\\s*\\[\\s*[\\\"']\\*[\\\"']|\\borigin\\s*:\\s*[\\\"']\\*[\\\"']"
    appliesTo := code ++ configuration
    description := "A wildcard origin lets any website call the API from a visitor's browser."
    recommendation := "List the allowed origins explicitly." },
  { id := "debug-enabled"
    category := .misconfig
    severity := .medium
    title := "Debug mode enabled"
    pattern := "^\\s*DEBUG\\s*=\\s*True\\b|\\.run\\([^)]*\\bdebug\\s*=\\s*True"
    appliesTo := python
    description :=
      "Debug mode exposes stack traces, settings and sometimes an interactive console."
    recommendation := "Drive debug mode from the environment and keep it off in production." },
  { id := "insecure-cookie"
    category := .misconfig
    severity := .medium
    title := "Cookie without Secure or HttpOnly"
    pattern :=
      "\\b(?:secure|httpOnly)\\s*:\\s*false\\b|SESSION_COOKIE_(?:SECURE" ++
      "|HTTPONLY)\\s*=\\s*False"
    appliesTo := code
    description :=
      "Session cookies without these flags can be read by scripts or sent over plain HTTP."
    recommendation := "Set Secure, HttpOnly and SameSite on session cookies."
    ignoreCase := true },
  { id := "service-role-in-client"
    category := .misconfig
    severity := .high
    title := "Supabase service_role key referenced"
    pattern := "[\\\"']service_role[\\\"']\\s*[,:)]"
    appliesTo := scripts
    description := "The service_role key bypasses row-level security."
    recommendation := "Use the service_role key only in trusted server-side code." },
  { id := "security-headers-disabled"
    category := .misconfig
    severity := .medium
    title := "Security header explicitly disabled"
    pattern :=
      "\\b(?:contentSecurityPolicy|frameguard|hsts|noSniff|strictTransportSecurity" ++
      "|xContentTypeOptions)\\s*:\\s*false\\b|\\bSECURE_CONTENT_TYPE_NOSNIFF\\s*=\\s*False\\b" ++
      "|\\bSECURE_HSTS_SECONDS\\s*=\\s*0\\b"
    appliesTo := code ++ configuration
    description :=
      "These headers limit XSS, protocol downgrade and MIME sniffing; turning one off " ++
      "removes that layer."
    recommendation := "Keep Content-Security-Policy, HSTS and X-Content-Type-Options enabled." },
  { id := "clickjacking"
    category := .misconfig
    severity := .medium
    title := "Framing allowed from any site"
    pattern :=
      "X-Frame-Options[\\\"']?\\s*[:,]\\s*(?:value\\s*:\\s*)?[\\\"']?ALLOW" ++
      "|frame-ancestors\\s+[\\\"']?\\*|\\bX_FRAME_OPTIONS\\s*=\\s*[\\\"']ALLOWALL" ++
      "|@xframe_options_exempt\\b"
    appliesTo := code ++ configuration
    description := "Pages that any site can frame are open to clickjacking."
    recommendation :=
      "Send X-Frame-Options: DENY or a frame-ancestors directive listing trusted origins."
    ignoreCase := true },
  { id := "docker-root-user"
    category := .misconfig
    severity := .medium
    title := "Container runs as root"
    pattern := "^\\s*USER\\s+(?:root|0)\\s*$"
    appliesTo := containerFiles
    description := "A compromised process running as root owns the whole container."
    recommendation := "Create and switch to an unprivileged user."
    ignoreCase := true },
  { id := "docker-latest-tag"
    category := .misconfig
    severity := .low
    title := "Base image pinned to latest"
    pattern := "^\\s*FROM\\s+[^\\s@]+:latest\\b"
    appliesTo := containerFiles
    description :=
      "The latest tag changes under you, so builds are neither reproducible nor reviewed."
    recommendation := "Pin base images to a version or digest."
    ignoreCase := true },
  { id := "docker-remote-add"
    category := .misconfig
    severity := .low
    title := "ADD fetches a remote URL"
    pattern := "^\\s*ADD\\s+https?://"
    appliesTo := containerFiles
    description := "Remote ADD downloads content without integrity checks."
    recommendation := "Download with curl and verify a checksum, or use COPY."
    ignoreCase := true },
  { id := "ci-pull-request-target"
    category := .misconfig
    severity := .medium
    title := "Workflow triggered by pull_request_target"
    pattern := "\\bpull_request_target\\b"
    appliesTo := workflows
    description :=
      "pull_request_target runs with repository secrets even for pull requests from forks."
    recommendation := "Avoid checking out untrusted code in pull_request_target workflows." },
  { id := "ci-script-injection"
    category := .misconfig
    severity := .high
    title := "Untrusted event data interpolated into a workflow script"
    pattern :=
      "\\$\\\x7b\\\x7b\\s*github\\.event\\.(?:issue|pull_request|comment|review" ++
      "|head_commit)\\.(?:title|body|message|head\\.ref)"
    appliesTo := workflows
    description :=
      "Titles, bodies and branch names are attacker-controlled and are expanded into the " ++
      "shell script."
    recommendation := "Pass event data through an env variable instead of inline expressions." },
  { id := "source-maps-in-production"
    category := .misconfig
    severity := .low
    title := "Production source maps enabled"
    pattern := "productionBrowserSourceMaps\\s*:\\s*true"
    appliesTo := ["next.config.*"]
    description := "Public source maps hand out the original client source."
    recommendation :=
      "Disable public source maps or upload them privately to your error tracker." },
  { id := "hardcoded-ip-endpoint"
    category := .misconfig
    severity := .low
    title := "Plain HTTP endpoint on a hardcoded IP"
    pattern :=
      "\\bhttp://(?!127\\.0\\.0\\.1|0\\.0\\.0\\.0|10\\." ++
      "|192\\.168\\.)\\d\x7b1,3\x7d(?:\\.\\d\x7b1,3\x7d)\x7b3\x7d"
    appliesTo := code ++ configuration
    description :=
      "Traffic to this endpoint is unencrypted and the address cannot be changed without a " ++
      "release."
    recommendation := "Use HTTPS and a hostname from configuration." },
  { id := "vulnerable-dependency"
    category := .misconfig
    severity := .high
    title := "Dependency version with known vulnerabilities"
    pattern :=
      "\\\"(?:lodash|express)\\\"\\s*:\\s*\\\"[\\^~<=v]*[0-3]\\." ++
      "|\\\"jsonwebtoken\\\"\\s*:\\s*\\\"[\\^~<=v]*[0-7]\\." ++
      "|\\\"minimist\\\"\\s*:\\s*\\\"[\\^~<=v]*0\\."
    appliesTo := manifests
    description :=
      "This version range includes releases with published prototype pollution or " ++
      "authentication flaws."
    recommendation := "Upgrade to a current release and run npm audit." },
  { id := "outdated-dependency"
    category := .misconfig
    severity := .medium
    title := "Outdated HTTP client dependency"
    pattern :=
      "\\\"axios\\\"\\s*:\\s*\\\"[\\^~<=v]*0\\.(?:[0-9]|1[0-9]|20)\\." ++
      "|\\\"node-fetch\\\"\\s*:\\s*\\\"[\\^~<=v]*[01]\\."
    appliesTo := manifests
    description := "Old axios and node-fetch releases have known SSRF and header-leak issues."
    recommendation := "Upgrade to a current release." },
  { id := "deprecated-dependency"
    category := .misconfig
    severity := .low
    title := "Deprecated dependency"
    pattern := "\\\"(?:moment|request)\\\"\\s*:\\s*\\\""
    appliesTo := manifests
    description := "Deprecated packages no longer receive security fixes."
    recommendation := "Migrate to a maintained alternative (date-fns or dayjs, fetch or axios)." },
  { id := "security-todo"
    category := .misconfig
    severity := .info
    title := "Unresolved security TODO"
    pattern := "(?:#|//)\\s*(?:TODO|FIXME|XXX)\\b.*\\b(?:security|auth|password|vuln|insecure)"
    appliesTo := code
    description := "A TODO or FIXME mentions a security concern that is still open."
    recommendation := "Track and resolve security follow-ups."
    ignoreCase := true }]

end SourceAudit.Builtin
