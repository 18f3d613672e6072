/-!
# Record types

What a record holds or a question asks for, as the number that stands for it.

## Main definitions

* `RecordType` — the type, with constants for the types that have a meaning here.
* `RecordType.text` — the mnemonic.
-/

namespace DohRelay.Dns

/-- A type of record. -/
structure RecordType where
  /-- The number that stands for the type. -/
  code : UInt16
  deriving DecidableEq, Repr

namespace RecordType

/-- An address of 32 bits. -/
def a : RecordType := ⟨1⟩
/-- The name of an authoritative server. -/
def ns : RecordType := ⟨2⟩
/-- The name that another name stands for. -/
def cname : RecordType := ⟨5⟩
/-- The start of a zone. -/
def soa : RecordType := ⟨6⟩
/-- Anything. -/
def null : RecordType := ⟨10⟩
/-- A pointer to another name. -/
def ptr : RecordType := ⟨12⟩
/-- The hardware and the system of a host. -/
def hinfo : RecordType := ⟨13⟩
/-- A mail exchange. -/
def mx : RecordType := ⟨15⟩
/-- Texts. -/
def txt : RecordType := ⟨16⟩
/-- An address of 128 bits. -/
def aaaa : RecordType := ⟨28⟩
/-- The place of a service. -/
def srv : RecordType := ⟨33⟩
/-- A rule that makes one name from another. -/
def naptr : RecordType := ⟨35⟩
/-- The extension record. -/
def opt : RecordType := ⟨41⟩
/-- The fingerprint of a host key. -/
def sshfp : RecordType := ⟨44⟩
/-- An association of a certificate. -/
def tlsa : RecordType := ⟨52⟩
/-- Synchronisation of a child zone with its parent. -/
def csync : RecordType := ⟨62⟩
/-- The binding of a service. -/
def svcb : RecordType := ⟨64⟩
/-- The binding of a web service. -/
def https : RecordType := ⟨65⟩
/-- A transfer of the changes to a zone. -/
def ixfr : RecordType := ⟨251⟩
/-- A transfer of a zone. -/
def axfr : RecordType := ⟨252⟩
/-- Every type. -/
def any : RecordType := ⟨255⟩
/-- Who may issue certificates. -/
def caa : RecordType := ⟨257⟩
/-- The name whose addresses another name has. -/
def aname : RecordType := ⟨65305⟩

/-- The mnemonics, with the numbers of their types. -/
def mnemonics : List (UInt16 × String) :=
  [(0, "ZERO"), (1, "A"), (2, "NS"), (5, "CNAME"), (6, "SOA"), (10, "NULL"), (12, "PTR"),
   (13, "HINFO"), (15, "MX"), (16, "TXT"), (24, "SIG"), (25, "KEY"), (28, "AAAA"), (33, "SRV"),
   (35, "NAPTR"), (41, "OPT"), (43, "DS"), (44, "SSHFP"), (46, "RRSIG"), (47, "NSEC"),
   (48, "DNSKEY"), (50, "NSEC3"), (51, "NSEC3PARAM"), (52, "TLSA"), (59, "CDS"), (60, "CDNSKEY"),
   (61, "OPENPGPKEY"), (62, "CSYNC"), (64, "SVCB"), (65, "HTTPS"), (250, "TSIG"), (251, "IXFR"),
   (252, "AXFR"), (255, "ANY"), (257, "CAA"), (65305, "ANAME")]

/-- The mnemonic of a type; all types without one share a word. -/
def text (t : RecordType) : String :=
  (mnemonics.lookup t.code).getD "Unknown"

end RecordType

end DohRelay.Dns
