import PasswordManager.Server.Swap
import PasswordManager.Server.Importer
import PasswordManager.Server.Backend
import PasswordManager.Interaction.Machine
import PasswordManager.Server.Rollback
import PasswordManager.Server.Upgrade
import PasswordManager.Security.AdminGate
import PasswordManager.Security.Contention
import PasswordManager.Security.LostDevice
import PasswordManager.Security.Replay
import PasswordManager.Security.SameProof
import PasswordManager.Security.SoftDelete
import PasswordManager.Server.Alone
import PasswordManager.Security.Backup
import PasswordManager.Security.Isolation
import PasswordManager.Security.Expiry
import PasswordManager.Security.Refusal
import PasswordManager.Security.ManyGroups
import PasswordManager.Security.RoundTrip
import PasswordManager.Security.SameAnswer
import PasswordManager.Security.SignUp
import PasswordManager.Security.TokenExchange
import PasswordManager.AdminCli.Highlight
import PasswordManager.Server.Mixing
import PasswordManager.Server.Snapshot
import PasswordManager.Vault.Private
import PasswordManager.Vault.Listing
import PasswordManager.Security.ServerErrors
import PasswordManager.Server.Shutdown
import PasswordManager.Server.RowFile
import PasswordManager.Security.Nonces
import PasswordManager.AdminCli.Dialogue
