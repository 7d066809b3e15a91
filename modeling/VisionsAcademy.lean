import VisionsAcademy.Login
import VisionsAcademy.Registration
import VisionsAcademy.SplashScreen
import VisionsAcademy.RequestLedger
import VisionsAcademy.RequestInterleaving
import VisionsAcademy.CourseGates
import VisionsAcademy.Library.Commits
import VisionsAcademy.ChatAttachments
import VisionsAcademy.ChatAuthors
import VisionsAcademy.ChatDelivery
import VisionsAcademy.CourseExpiry
import VisionsAcademy.RequestWrites
import VisionsAcademy.CourseAccess
import VisionsAcademy.Library.Words
import VisionsAcademy.FirebaseProvider
import VisionsAcademy.Library.Regex
import VisionsAcademy.EmailValidator
import VisionsAcademy.Forms
import VisionsAcademy.QuickReplies
import VisionsAcademy.ChatOrder
import VisionsAcademy.PageLifetimes
import VisionsAcademy.SideBar
import VisionsAcademy.CourseLifecycle
import VisionsAcademy.AccountSession
import VisionsAcademy.RequestAccounts
import VisionsAcademy.DocumentIsolation
import VisionsAcademy.CourseVideos
import VisionsAcademy.NewsLists
import VisionsAcademy.DeviceBinding
import VisionsAcademy.DrawerProfile
import VisionsAcademy.HalfRegistered
import VisionsAcademy.SignUpAccounts
import VisionsAcademy.ReplyHistory
