import FirmwareUpdate.Text.Utf8

/-!
# Sample certificates

The certificates and the key that the test bench uses: a server's certificate, the root that
stands for its chain, a certificate with another key, and the server's key on its own.
-/

namespace FirmwareUpdate.Bench

/-- The text of a file with the given lines. -/
def fileText (lines : List String) : String :=
  String.join (lines.map (· ++ "\n"))

/-- The certificate of the server, with an RSA key. -/
def peerCertificate : String :=
  fileText [
    "-----BEGIN CERTIFICATE-----",
    "MIIFNzCCBB+gAwIBAgIJANYDzCSwNgryMA0GCSqGSIb3DQEBCwUAMIG0MQswCQYD",
    "VQQGEwJVUzEQMA4GA1UECBMHQXJpem9uYTETMBEGA1UEBxMKU2NvdHRzZGFsZTEa",
    "MBgGA1UEChMRR29EYWRkeS5jb20sIEluYy4xLTArBgNVBAsTJGh0dHA6Ly9jZXJ0",
    "cy5nb2RhZGR5LmNvbS9yZXBvc2l0b3J5LzEzMDEGA1UEAxMqR28gRGFkZHkgU2Vj",
    "dXJlIENlcnRpZmljYXRlIEF1dGhvcml0eSAtIEcyMB4XDTE2MDcxMTE3NDE0MloX",
    "DTE5MDcxMTE3NDE0MlowPzEhMB8GA1UECxMYRG9tYWluIENvbnRyb2wgVmFsaWRh",
    "dGVkMRowGAYDVQQDExF3d3cuY2xhc3N5Y29kZS5pbzCCASIwDQYJKoZIhvcNAQEB",
    "BQADggEPADCCAQoCggEBAPKdu6d89pXjP0qVWG33xGSOyNRLak9zShtx/KaO9ftj",
    "TmBASCBlxk0aNba6gt1H+Hx2NPZqCd8BWRM/nt1fk9cCYYsRkjrJn/o8i0LmQTyr",
    "2jb/LVScQEApaCe3sNA7evz+F2jNodX45uvi+wiPoUZkoG3aToPkx3QjrphMGD1g",
    "lS2zSVy6Zg0AcnroHCMSdSlxo2DOHie8zfAyCQacyBjDNrZgcVZzIANyw6Y/YAeR",
    "bQwzDerm23daSMdkfc6ewsLvFmfsy7VZIdJYsPOOA7o0xyeeUW1C4NnWxvp8j4tR",
    "1X/JWSNAYki8pj2ChwUF6SPxwHMDnp//g1liuCR7Mh0CAwEAAaOCAb4wggG6MAwG",
    "A1UdEwEB/wQCMAAwHQYDVR0lBBYwFAYIKwYBBQUHAwEGCCsGAQUFBwMCMA4GA1Ud",
    "DwEB/wQEAwIFoDA3BgNVHR8EMDAuMCygKqAohiZodHRwOi8vY3JsLmdvZGFkZHku",
    "Y29tL2dkaWcyczEtMjY1LmNybDBdBgNVHSAEVjBUMEgGC2CGSAGG/W0BBxcBMDkw",
    "NwYIKwYBBQUHAgEWK2h0dHA6Ly9jZXJ0aWZpY2F0ZXMuZ29kYWRkeS5jb20vcmVw",
    "b3NpdG9yeS8wCAYGZ4EMAQIBMHYGCCsGAQUFBwEBBGowaDAkBggrBgEFBQcwAYYY",
    "aHR0cDovL29jc3AuZ29kYWRkeS5jb20vMEAGCCsGAQUFBzAChjRodHRwOi8vY2Vy",
    "dGlmaWNhdGVzLmdvZGFkZHkuY29tL3JlcG9zaXRvcnkvZ2RpZzIuY3J0MB8GA1Ud",
    "IwQYMBaAFEDCvSeOzDSDMKIz1/tss/C0LIDOMCsGA1UdEQQkMCKCEXd3dy5jbGFz",
    "c3ljb2RlLmlvgg1jbGFzc3ljb2RlLmlvMB0GA1UdDgQWBBRSUKeJNe7VqzcoU22Q",
    "+2Cwm5LqjjANBgkqhkiG9w0BAQsFAAOCAQEAO4P8Pxbfdspwtg0zBi+d6AHkBEA8",
    "lDa/S6XGx+1fCbtDAm734eVvHDRQOIUtJjN8RI0vsV75Qn5M0hfm9l8BdTp/KZgI",
    "3yDAWmHp6djQs35vVHs00aFoyB2BHYgJ0/mdlnmwFeqYo0lJn3MrAT+mZ824KDKN",
    "SjOhhHUy2HFaWQ8p6t+r8Gwexc2UJVXQ5+0dIEVHb3E3ZYWkebG7yMZiJvpt6fgZ",
    "L2DbU95sIPiNCxICtTdf6BcU31JrIiBqozKenXs4cIEj4YBE6QVsiS8zJt/K3Sc5",
    "anfkm8wWGaEfaD16wcz7+7yi937RE1Q2EdyKMVhx4UNTln2HqxxIqmUSYQ==",
    "-----END CERTIFICATE-----"]

/-- The certificate of the authority above it. -/
def rootCertificate : String :=
  fileText [
    "-----BEGIN CERTIFICATE-----",
    "MIIEfTCCA2WgAwIBAgIDG+cVMA0GCSqGSIb3DQEBCwUAMGMxCzAJBgNVBAYTAlVT",
    "MSEwHwYDVQQKExhUaGUgR28gRGFkZHkgR3JvdXAsIEluYy4xMTAvBgNVBAsTKEdv",
    "IERhZGR5IENsYXNzIDIgQ2VydGlmaWNhdGlvbiBBdXRob3JpdHkwHhcNMTQwMTAx",
    "MDcwMDAwWhcNMzEwNTMwMDcwMDAwWjCBgzELMAkGA1UEBhMCVVMxEDAOBgNVBAgT",
    "B0FyaXpvbmExEzARBgNVBAcTClNjb3R0c2RhbGUxGjAYBgNVBAoTEUdvRGFkZHku",
    "Y29tLCBJbmMuMTEwLwYDVQQDEyhHbyBEYWRkeSBSb290IENlcnRpZmljYXRlIEF1",
    "dGhvcml0eSAtIEcyMIIBIjANBgkqhkiG9w0BAQEFAAOCAQ8AMIIBCgKCAQEAv3Fi",
    "CPH6WTT3G8kYo/eASVjpIoMTpsUgQwE7hPHmhUmfJ+r2hBtOoLTbcJjHMgGxBT4H",
    "Tu70+k8vWTAi56sZVmvigAf88xZ1gDlRe+X5NbZ0TqmNghPktj+pA4P6or6KFWp/",
    "3gvDthkUBcrqw6gElDtGfDIN8wBmIsiNaW02jBEYt9OyHGC0OPoCjM7T3UYH3go+",
    "6118yHz7sCtTpJJiaVElBWEaRIGMLKlDliPfrDqBmg4pxRyp6V0etp6eMAo5zvGI",
    "gPtLXcwy7IViQyU0AlYnAZG0O3AqP26x6JyIAX2f1PnbU21gnb8s51iruF9G/M7E",
    "GwM8CetJMVxpRrPgRwIDAQABo4IBFzCCARMwDwYDVR0TAQH/BAUwAwEB/zAOBgNV",
    "HQ8BAf8EBAMCAQYwHQYDVR0OBBYEFDqahQcQZyi27/a9BUFuIMGU2g/eMB8GA1Ud",
    "IwQYMBaAFNLEsNKR1EwRcbNhyz2h/t2oatTjMDQGCCsGAQUFBwEBBCgwJjAkBggr",
    "BgEFBQcwAYYYaHR0cDovL29jc3AuZ29kYWRkeS5jb20vMDIGA1UdHwQrMCkwJ6Al",
    "oCOGIWh0dHA6Ly9jcmwuZ29kYWRkeS5jb20vZ2Ryb290LmNybDBGBgNVHSAEPzA9",
    "MDsGBFUdIAAwMzAxBggrBgEFBQcCARYlaHR0cHM6Ly9jZXJ0cy5nb2RhZGR5LmNv",
    "bS9yZXBvc2l0b3J5LzANBgkqhkiG9w0BAQsFAAOCAQEAWQtTvZKGEacke+1bMc8d",
    "H2xwxbhuvk679r6XUOEwf7ooXGKUwuN+M/f7QnaF25UcjCJYdQkMiGVnOQoWCcWg",
    "OJekxSOTP7QYpgEGRJHjp2kntFolfzq3Ms3dhP8qOCkzpN1nsoX+oYggHFCJyNwq",
    "9kIDN0zmiN/VryTyscPfzLXs4Jlet0lUIDyUGAzHHFIYSaRt4bNYC8nY7NmuHDKO",
    "KHAN4v6mF56ED71XcLNa6R+ghlO773z/aQvgSMO3kwvIClTErF0UZzdsyqUvMQg3",
    "qm5vjLyb4lddJIGvl5echK1srDdMZvNhkREg5L4wn3qkKQmw4TRfZHcYQFHfjDCm",
    "rw==",
    "-----END CERTIFICATE-----"]

/-- A certificate of another server, with an elliptic curve key. -/
def otherCertificate : String :=
  fileText [
    "-----BEGIN CERTIFICATE-----",
    "MIIBejCCASGgAwIBAgIUQnZX4H1n8KP/NjEiE9Vqkntj99owCgYIKoZIzj0EAwIw",
    "EzERMA8GA1UEAwwIb3RhLnRlc3QwHhcNMjYxMDE3MjIyMjI2WhcNMzYxMDE0MjIy",
    "MjI2WjATMREwDwYDVQQDDAhvdGEudGVzdDBZMBMGByqGSM49AgEGCCqGSM49AwEH",
    "A0IABCH2XOnfJ5S8D2mCxT8HFfREJp52IYSeqQNb07aTpwLCbOakx+v517hqX//l",
    "tUPLP+fB4QMB4bfOQbjDhfpwskyjUzBRMB0GA1UdDgQWBBTp9GvphDYoiq7NYf+c",
    "Va3zrEcerTAfBgNVHSMEGDAWgBTp9GvphDYoiq7NYf+cVa3zrEcerTAPBgNVHRMB",
    "Af8EBTADAQH/MAoGCCqGSM49BAMCA0cAMEQCIEY1AWpprGRj1zpG6Npjfr95xveG",
    "DMInCAbaf0vV0u0KAiByQMIe0aLRfA3I8jQQpPGRYam/jQUAgIzUHMEbM/sljA==",
    "-----END CERTIFICATE-----"]

/-- The public key in the server's certificate. -/
def peerKey : String :=
  fileText [
    "-----BEGIN PUBLIC KEY-----",
    "MIIBIjANBgkqhkiG9w0BAQEFAAOCAQ8AMIIBCgKCAQEA8p27p3z2leM/SpVYbffE",
    "ZI7I1EtqT3NKG3H8po71+2NOYEBIIGXGTRo1trqC3Uf4fHY09moJ3wFZEz+e3V+T",
    "1wJhixGSOsmf+jyLQuZBPKvaNv8tVJxAQCloJ7ew0Dt6/P4XaM2h1fjm6+L7CI+h",
    "RmSgbdpOg+THdCOumEwYPWCVLbNJXLpmDQByeugcIxJ1KXGjYM4eJ7zN8DIJBpzI",
    "GMM2tmBxVnMgA3LDpj9gB5FtDDMN6ubbd1pIx2R9zp7Cwu8WZ+zLtVkh0liw844D",
    "ujTHJ55RbULg2dbG+nyPi1HVf8lZI0BiSLymPYKHBQXpI/HAcwOen/+DWWK4JHsy",
    "HQIDAQAB",
    "-----END PUBLIC KEY-----"]

/-- The sample of a name. -/
def sample? : String → Option String
  | "peer" => some peerCertificate
  | "root_ca" => some rootCertificate
  | "ec_peer" => some otherCertificate
  | "peer_pubkey" => some peerKey
  | _ => none

end FirmwareUpdate.Bench
