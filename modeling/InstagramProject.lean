import InstagramProject.Transition
import InstagramProject.SignUps
import InstagramProject.Completion
import InstagramProject.Finishing
import InstagramProject.LastPicture
import InstagramProject.World
import InstagramProject.Keyboard
import InstagramProject.Readers
import InstagramProject.PostLists
import InstagramProject.Lifetimes
import InstagramProject.Placeholders
import InstagramProject.Failures
import InstagramProject.Listeners
import InstagramProject.ServiceCalls
import InstagramProject.Previews
import InstagramProject.Arrivals
import InstagramProject.EditButton
import InstagramProject.FeedCells
import InstagramProject.Settling
import InstagramProject.Credentials
import InstagramProject.References
import InstagramProject.Presentations
import InstagramProject.Passwords
import InstagramProject.LocalStores
import InstagramProject.Firestore.MutationQueue
import InstagramProject.Firestore.LocalStore
import InstagramProject.Firestore.LocalViews
import InstagramProject.Firestore.LocalQueries
import InstagramProject.Firestore.WritePipeline
import InstagramProject.Firestore.WriteProtocol
import InstagramProject.Firestore.WriteSteps
import InstagramProject.Firestore.WriteDeliveries
