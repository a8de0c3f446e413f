/-
# Signatures for files

The tables that a file is searched for: names of calls and things that only malware uses, and
idioms that merely deserve a look.  The two weighted tables feed the malware assessment, the
one with evidence of an attack, the other with signs of concealment.
-/
import ThreatScan.Catalog.Signature

namespace ThreatScan
namespace Shipped

open Pattern

/-! ## 1. Plain words -/

/-- Words that only malware uses. -/
def malware : List Signature := [
  .ofWord "TL-MAL-001" "CreateRemoteThread" .high .malware,
  .ofWord "TL-MAL-002" "VirtualAllocEx" .high .malware,
  .ofWord "TL-MAL-003" "WriteProcessMemory" .high .malware,
  .ofWord "TL-MAL-004" "SetWindowsHookEx" .high .malware,
  .ofWord "TL-MAL-005" "keylogger" .high .malware,
  .ofWord "TL-MAL-006" "bitcoin" .high .malware,
  .ofWord "TL-MAL-007" "cryptocurrency" .high .malware]

/-- Words that deserve a warning. -/
def suspicious : List Signature := [
  .ofWord "TL-SUS-001" "base64" .medium .suspicious,
  .ofWord "TL-SUS-002" "eval(" .medium .suspicious,
  .ofWord "TL-SUS-003" "document.write" .medium .suspicious,
  .ofWord "TL-SUS-004" "innerHTML" .medium .suspicious,
  .ofWord "TL-SUS-005" "system(" .medium .suspicious,
  .ofWord "TL-SUS-006" "exec(" .medium .suspicious,
  .ofWord "TL-SUS-007" "shell_exec" .medium .suspicious,
  .ofWord "TL-SUS-008" "cmd.exe" .medium .suspicious,
  .ofWord "TL-SUS-009" "powershell" .medium .suspicious]

/-! ## 2. Weighted evidence -/

/-- A weighted signature of an attack. -/
def attack (ruleId label : Text) (weight : Binary64) (pattern : Pattern) : Signature :=
  { ruleId, pattern, label, weight, severity := .high, category := .malware }

/-- Two words with any text of the same line between them. -/
def apart (first second : Text) : Pattern := sequence [word first, gap, word second]

/-- Evidence of an attack: on the machine, over the network, on data. -/
def advancedMalware : List Signature := [
  attack "TL-AMAL-001" "Process injection detected" 0.9
    (words ["CreateRemoteThread", "VirtualAllocEx", "WriteProcessMemory"]),
  attack "TL-AMAL-002" "Keylogging capability detected" 0.8
    (words ["SetWindowsHookEx", "keylogger", "GetAsyncKeyState"]),
  attack "TL-AMAL-003" "Cryptocurrency mining/theft detected" 0.7
    (words ["bitcoin", "cryptocurrency", "mining", "wallet.dat"]),
  attack "TL-AMAL-004" "Ransomware behavior detected" 0.95
    (oneOf [word "ransomware", apart "encrypt" "files", word ".locked", word ".encrypted"]),
  attack "TL-AMAL-005" "Botnet/C2 communication detected" 0.85
    (oneOf [word "botnet", word "c2", apart "command" "control", word "backdoor"]),
  attack "TL-AMAL-006" "DDoS capability detected" 0.75
    (oneOf [word "ddos", apart "denial" "service", apart "flood" "attack"]),
  attack "TL-AMAL-007" "Data exfiltration detected" 0.8
    (oneOf [word "exfiltrate", apart "steal" "data", apart "send" "password",
      apart "upload" "file"]),
  attack "TL-AMAL-008" "Financial data harvesting detected" 0.9
    (oneOf [apart "credit" "card", word "ssn", apart "social" "security",
      apart "bank" "account"])]

/-- A weighted signature of concealment. -/
def concealment (ruleId label : Text) (weight : Binary64) (pattern : Pattern) : Signature :=
  { ruleId, pattern, label, weight, category := .anomaly }

/-- A backslash, an x and two hexadecimal digits. -/
def hexEscape : Pattern := sequence [word "\\x", times 2 .hexDigit]

/-- Signs of concealment. -/
def anomalies : List Signature := [
  concealment "TL-ANO-001" "Hex encoding obfuscation" 0.6 hexEscape,
  concealment "TL-ANO-002" "Base64 encoding detected" 0.4 (words ["base64", "atob", "btoa"]),
  concealment "TL-ANO-003" "Dynamic code execution" 0.7
    (words ["eval(", "Function(", "setTimeout("]),
  concealment "TL-ANO-004" "Registry manipulation" 0.8
    (words ["RegCreateKey", "RegSetValue", "RegDeleteKey"]),
  concealment "TL-ANO-005" "File system manipulation" 0.5
    (words ["CreateFile", "WriteFile", "DeleteFile"]),
  concealment "TL-ANO-006" "Dynamic library loading" 0.9
    (words ["LoadLibrary", "GetProcAddress", "VirtualAlloc"])]

/-! ## 3. File name extensions -/

/-- Extensions that earn a finding. -/
def suspiciousExtensions : List Text := [".exe", ".scr", ".bat", ".cmd", ".pif"]

/-- Extensions of programs, which raise the pattern score. -/
def executableExtensions : List Text := suspiciousExtensions ++ [Text.ofString ".com"]

end Shipped
end ThreatScan
