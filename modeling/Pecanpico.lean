import Pecanpico.Beacon.Thread
import Pecanpico.Beacon.Schedule
import Pecanpico.Beacon.Ordering
import Pecanpico.Crypto.Driver
import Pecanpico.Crypto.Invariant
import Pecanpico.Crypto.Session
import Pecanpico.Shell.PrintPicture
import Pecanpico.Shell.Chprintf
import Pecanpico.Shell.ReadLog
import Pecanpico.Shell.PrintConfig
import Pecanpico.Board.Portab
