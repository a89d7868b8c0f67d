import Webauthn.Error
import Webauthn.Proto
import Webauthn.Openssl
import Webauthn.CoseKey
import Webauthn.CoseKeySpec
import Webauthn.Certificate
import Webauthn.CoseEncoding
import Webauthn.Extension
import Webauthn.TpmSanData
import Webauthn.Attestation
import Webauthn.Builder
import Webauthn.Ceremony
